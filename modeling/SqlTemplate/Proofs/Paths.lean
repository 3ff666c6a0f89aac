import SqlTemplate.Condition.Eval

namespace SqlTemplate

namespace Expr

mutual

def paths : Expr → List String
  | .literal _ => []
  | .param path => [path]
  | .call _ args => pathsAll args
  | .unary _ e => e.paths
  | .binary _ l r => l.paths ++ r.paths
  | .within e es => e.paths ++ pathsAll es

def pathsAll : List Expr → List String
  | [] => []
  | e :: es => e.paths ++ pathsAll es

end

def SameParam (A B : Source) (path : String) : Prop :=
  (A path).map (·.getD .null) = (B path).map (·.getD .null)

variable {functions : Registry} {A B : Source}

theorem SameParam.of_eq {path : String} (h : A path = B path) : SameParam A B path := by
  rw [SameParam, h]

theorem eval_param (functions : Registry) (source : Source) (path : String) :
    (param path).eval functions source = (source path).map (·.getD .null) := by
  rw [eval]
  cases source path <;> rfl

mutual

theorem eval_congr (e : Expr) (same : ∀ path ∈ e.paths, SameParam A B path) :
    e.eval functions A = e.eval functions B := by
  cases e with
  | literal v => rfl
  | param path =>
    rw [eval_param, eval_param]
    exact same path List.mem_cons_self
  | call name args =>
    rw [eval, eval]
    cases functions.get? name with
    | none => rfl
    | some f => simp only [evalAll_congr args same]
  | unary op e =>
    have inner := eval_congr e same
    cases op <;> simp only [eval, inner]
  | binary op l r =>
    have left := eval_congr l fun path found => same path (List.mem_append_left _ found)
    have right := eval_congr r fun path found => same path (List.mem_append_right _ found)
    cases op <;> simp only [eval, left, right]
  | within e es =>
    have needle := eval_congr e fun path found => same path (List.mem_append_left _ found)
    have others : ∀ path ∈ pathsAll es, SameParam A B path := by
      intro path found
      exact same path (List.mem_append_right _ found)
    simp only [eval, needle, evalWithin_congr es others]

theorem evalAll_congr (es : List Expr) (same : ∀ path ∈ pathsAll es, SameParam A B path) :
    evalAll functions A es = evalAll functions B es := by
  cases es with
  | nil => rfl
  | cons e es =>
    have first := eval_congr e fun path found => same path (List.mem_append_left _ found)
    have rest := evalAll_congr es fun path found => same path (List.mem_append_right _ found)
    simp only [evalAll, first, rest]

theorem evalWithin_congr (es : List Expr) (same : ∀ path ∈ pathsAll es, SameParam A B path)
    (needle : Value) :
    evalWithin functions A needle es = evalWithin functions B needle es := by
  cases es with
  | nil => rfl
  | cons e es =>
    have first := eval_congr e fun path found => same path (List.mem_append_left _ found)
    have rest := evalWithin_congr es
      (fun path found => same path (List.mem_append_right _ found)) needle
    simp only [evalWithin, first, rest]

end

end Expr

end SqlTemplate
