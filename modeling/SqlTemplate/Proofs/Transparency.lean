import SqlTemplate.Proofs.Calls
import SqlTemplate.Template.Render

namespace SqlTemplate

namespace Value

theorem resolved_of_isNil {v : Value} (h : v.isNil = true) : v.resolved = .null := by
  cases v <;> first | rfl | cases h

end Value

namespace Function

def LooksThrough (f : Function) : Prop := ∀ args, f (args.map Value.resolved) = f args

theorem sizeOfFirst_map_resolved (name : String) (args : List Value) :
    sizeOfFirst name (args.map Value.resolved) = sizeOfFirst name args := by
  cases args with
  | nil => rfl
  | cons v rest => simp [sizeOfFirst, firstArgument]

theorem looksThrough_len : LooksThrough len := by
  intro args
  rw [len, len, sizeOfFirst_map_resolved]

theorem looksThrough_isEmpty : LooksThrough isEmpty := by
  intro args
  rw [isEmpty, isEmpty, sizeOfFirst_map_resolved]

theorem looksThrough_isNotEmpty : LooksThrough isNotEmpty := by
  intro args
  rw [isNotEmpty, isNotEmpty, sizeOfFirst_map_resolved]

theorem LooksThrough.congr {f : Function} (h : f.LooksThrough) {args more : List Value}
    (same : args.map Value.resolved = more.map Value.resolved) : f args = f more := by
  rw [← h args, same, h more]

end Function

namespace Registry

def measures : List String := ["len", "isEmpty", "isNotEmpty"]

theorem looksThrough_of_measures {name : String} (h : name ∈ measures) {f : Function}
    (found : builtin.get? name = some f) : f.LooksThrough := by
  simp only [measures, List.mem_cons, List.not_mem_nil, or_false] at h
  rcases h with rfl | rfl | rfl
  · cases found
    exact Function.looksThrough_len
  · cases found
    exact Function.looksThrough_isEmpty
  · cases found
    exact Function.looksThrough_isNotEmpty

end Registry

namespace Source

/-- Whether a source answers every name as another does, or with one more layer around a value that
is not nil inside. -/
def Wraps (A B : Source) : Prop := ∀ name, B name = A name
  ∨ ∃ v : Value, A name = .ok (some v) ∧ v.resolved ≠ .null ∧ B name = .ok (some (.present v))

namespace Wraps

variable {A B : Source}

theorem bind (h : A.Wraps B) (bindings : List (String × Value)) :
    (A.bind bindings).Wraps (B.bind bindings) := by
  intro name
  cases found : bindings.lookup (Text.headSegment name) with
  | some v => exact .inl ((bind_of_lookup found).trans (bind_of_lookup found).symm)
  | none =>
    rw [bind_of_lookup_none found, bind_of_lookup_none found]
    exact h name

theorem ofBindings {v : Value} (found : v.resolved ≠ .null) (name : String)
    (bindings : List (String × Value)) :
    Wraps (.ofBindings ((name, v) :: bindings)) (.ofBindings ((name, .present v) :: bindings)) := by
  intro path
  simp only [Source.ofBindings, find?, List.lookup_cons]
  cases (Text.segments path).1 == name with
  | false => exact .inl rfl
  | true =>
    cases (Text.segments path).2 with
    | nil => exact .inr ⟨v, rfl, found, rfl⟩
    | cons segment rest => exact .inl rfl

end Wraps
end Source

section Except

variable {α β γ : Type}

theorem bind_congr_of_map {x y : Except Error α} {f k : α → Except Error β} (g : α → γ)
    (same : x.map g = y.map g) (next : ∀ a b, g a = g b → f a = k b) : (x >>= f) = (y >>= k) := by
  cases x with
  | error e =>
    cases y with
    | error d =>
      cases same
      rfl
    | ok b => cases same
  | ok a =>
    cases y with
    | error d => cases same
    | ok b => exact next a b (Except.ok.inj same)

theorem map_bind_cons (g : α → γ) (x : Except Error α) (xs : Except Error (List α)) :
    (do let a ← x; return a :: (← xs) : Except Error (List α)).map (List.map g)
      = (do let c ← x.map g; return c :: (← xs.map (List.map g))) := by
  cases x with
  | error e => rfl
  | ok a => cases xs <;> rfl

end Except

theorem truth_congr {v w : Value} (same : v.resolved = w.resolved) (operator : Connective) :
    truth operator v = truth operator w := by
  rw [truth, truth, same]

namespace Expr

variable {functions : Registry} {A B : Source}

def CallsThrough (functions : Registry) (names : List String) : Prop :=
  ∀ name ∈ names, ∀ f, functions.get? name = some f → f.LooksThrough

theorem callsThrough_append {names more : List String}
    (h : CallsThrough functions (names ++ more)) :
    CallsThrough functions names ∧ CallsThrough functions more :=
  List.forall_mem_append.1 h

theorem map_eval_param (h : A.Wraps B) (path : String) :
    ((Expr.param path).eval functions A).map Value.resolved
      = ((Expr.param path).eval functions B).map Value.resolved := by
  rw [eval, eval]
  rcases h path with same | ⟨v, plain, -, wrapped⟩
  · rw [same]
  · rw [plain, wrapped]
    rfl

mutual

theorem map_eval_of_wraps (h : A.Wraps B) (e : Expr)
    (through : CallsThrough functions e.calls) :
    (e.eval functions A).map Value.resolved = (e.eval functions B).map Value.resolved := by
  cases e with
  | literal v => rfl
  | param path => exact map_eval_param h path
  | call name args =>
    obtain ⟨own, others⟩ := List.forall_mem_cons.1 through
    have arguments := map_evalAll_of_wraps h args others
    rw [eval, eval]
    cases found : functions.get? name with
    | none => rfl
    | some f =>
      refine congrArg _ (bind_congr_of_map _ arguments ?_)
      intro args more same
      exact (own f found).congr same
  | unary op e =>
    have operand := map_eval_of_wraps h e through
    cases op with
    | not =>
      rw [eval, eval]
      refine congrArg _ (bind_congr_of_map _ operand ?_)
      intro v w same
      rw [truth_congr same]
    | neg =>
      rw [eval, eval]
      refine congrArg _ (bind_congr_of_map _ operand ?_)
      intro v w same
      rw [same]
  | binary op l r =>
    obtain ⟨first, second⟩ := callsThrough_append through
    have left := map_eval_of_wraps h l first
    have right := map_eval_of_wraps h r second
    cases op with
    | and =>
      rw [eval, eval]
      refine congrArg _ (bind_congr_of_map _ left ?_)
      intro a b same
      rw [truth_congr same]
      refine bind_congr fun holds => ?_
      cases holds with
      | true =>
        refine bind_congr_of_map _ right ?_
        intro c d alike
        rw [truth_congr alike]
      | false => rfl
    | or =>
      rw [eval, eval]
      refine congrArg _ (bind_congr_of_map _ left ?_)
      intro a b same
      rw [truth_congr same]
      refine bind_congr fun holds => ?_
      cases holds with
      | true => rfl
      | false =>
        refine bind_congr_of_map _ right ?_
        intro c d alike
        rw [truth_congr alike]
    | eq | notEq | lt | ltEq | gt | gtEq | add | sub | mul | div | mod =>
      simp only [eval]
      refine congrArg _ (bind_congr_of_map _ left ?_)
      intro a b same
      refine bind_congr_of_map _ right ?_
      intro c d alike
      rw [same, alike]
  | within e es =>
    obtain ⟨first, others⟩ := callsThrough_append through
    have needle := map_eval_of_wraps h e first
    rw [eval, eval]
    refine congrArg _ (bind_congr_of_map _ needle ?_)
    intro v w same
    exact evalWithin_of_wraps h es others same

theorem map_evalAll_of_wraps (h : A.Wraps B) (es : List Expr)
    (through : CallsThrough functions (callsAll es)) :
    (evalAll functions A es).map (List.map Value.resolved)
      = (evalAll functions B es).map (List.map Value.resolved) := by
  cases es with
  | nil => rfl
  | cons e es =>
    obtain ⟨own, others⟩ := callsThrough_append through
    rw [evalAll, evalAll, map_bind_cons, map_bind_cons, map_eval_of_wraps h e own,
      map_evalAll_of_wraps h es others]

theorem evalWithin_of_wraps (h : A.Wraps B) (es : List Expr)
    (through : CallsThrough functions (callsAll es)) {v w : Value}
    (same : v.resolved = w.resolved) :
    evalWithin functions A v es = evalWithin functions B w es := by
  cases es with
  | nil => rfl
  | cons e es =>
    obtain ⟨own, others⟩ := callsThrough_append through
    rw [evalWithin, evalWithin]
    refine bind_congr_of_map _ (map_eval_of_wraps h e own) ?_
    intro a b alike
    rw [same, alike, evalWithin_of_wraps h es others same]

end

end Expr

namespace MarkedText

variable {A B : Source}

theorem bindMarker_of_wraps (h : A.Wraps B) (m : Marker) : bindMarker A m = bindMarker B m := by
  rw [bindMarker, bindMarker]
  rcases h m.name with same | ⟨v, plain, -, wrapped⟩
  · rw [same]
  · rw [plain, wrapped]
    rfl

theorem bindAll_of_wraps (h : A.Wraps B) (markers : List Marker) :
    bindAll A markers = bindAll B markers := by
  induction markers with
  | nil => rfl
  | cons m markers ih => rw [bindAll, bindAll, bindMarker_of_wraps h m, ih]

end MarkedText

namespace Node

variable {dialect : Dialect} {A B : Source}

theorem writeText_of_wraps (h : A.Wraps B) (t : MarkedText) :
    writeText ⟨dialect, A⟩ t = writeText ⟨dialect, B⟩ t := by
  funext p
  simp only [writeText, MarkedText.bind, MarkedText.bindAll_of_wraps h]

theorem holds_of_wraps (h : A.Wraps B) {test : Condition}
    (through : Expr.CallsThrough test.functions test.expr.calls) (body : List Node) :
    holds A test body = holds B test body := by
  rw [holds, holds]
  refine bind_congr_of_map _ (Expr.map_eval_of_wraps h test.expr through) ?_
  intro v w same
  rw [same]

theorem printText_of_wraps (h : A.Wraps B) (print : Print) :
    printText A print = printText B print := by
  rw [printText, printText]
  rcases h print.name with same | ⟨v, plain, inside, wrapped⟩
  · rw [same]
  · have found : v.isNil = false := by
      rw [← Bool.not_eq_true]
      exact fun nil => inside (Value.resolved_of_isNil nil)
    rw [plain, wrapped]
    simp only [found]
    rfl

theorem loopElements_of_wraps (h : A.Wraps B) (loop : Loop) (shown : String) :
    loopElements A loop shown = loopElements B loop shown := by
  rw [loopElements, loopElements]
  rcases h loop.collection with same | ⟨v, plain, -, wrapped⟩
  · rw [same]
  · rw [plain, wrapped]
    rfl

section Loop

variable {body : Context → Printer → Printer}

theorem writeElements_of_wraps (h : A.Wraps B) (loop : Loop)
    (inner : ∀ {A B}, A.Wraps B → body ⟨dialect, A⟩ = body ⟨dialect, B⟩)
    (elements : List (Value × Value)) (isFirst : Bool) (p : Printer) :
    writeElements ⟨dialect, A⟩ loop body isFirst elements p
      = writeElements ⟨dialect, B⟩ loop body isFirst elements p := by
  induction elements generalizing isFirst p with
  | nil => rfl
  | cons element rest ih =>
    obtain ⟨key, element⟩ := element
    have scope : body ⟨dialect, loopSource A loop key element⟩
        = body ⟨dialect, loopSource B loop key element⟩ := inner (h.bind _)
    rw [writeElements, writeElements]
    simp only [scope, ih]

theorem writeLoop_of_wraps (h : A.Wraps B) (loop : Loop) (shown : String)
    (inner : ∀ {A B}, A.Wraps B → body ⟨dialect, A⟩ = body ⟨dialect, B⟩) :
    writeLoop ⟨dialect, A⟩ loop shown body
      = writeLoop ⟨dialect, B⟩ loop shown body := by
  funext p
  rw [writeLoop, writeLoop, loopElements_of_wraps h]
  simp only [writeElements_of_wraps h loop inner]

end Loop

def TestsThrough (tests : List Condition) : Prop :=
  ∀ test ∈ tests, Expr.CallsThrough test.functions test.expr.calls

mutual

theorem write_of_wraps {A B : Source} (h : A.Wraps B) (node : Node)
    (through : TestsThrough (tests node)) :
    write ⟨dialect, A⟩ node = write ⟨dialect, B⟩ node := by
  funext p
  cases node with
  | text t => rw [write, write, writeText_of_wraps h]
  | conditional test body =>
    obtain ⟨own, inner⟩ := List.forall_mem_cons.1 through
    simp only [write, holds_of_wraps h own, writeAll_of_wraps h body inner]
  | choose branches otherwise =>
    obtain ⟨inner, last⟩ := List.forall_mem_append.1 through
    rw [write, write, writeAll_of_wraps h otherwise last, writeBranches_of_wraps h branches inner]
  | forEach loop body =>
    rw [write, write]
    exact congrFun (writeLoop_of_wraps h loop _ fun scope =>
      writeAll_of_wraps scope body through) p
  | whereClause body => rw [write, write, writeAll_of_wraps h body through]
  | setClause body => rw [write, write, writeAll_of_wraps h body through]
  | print print => simp only [write, writePrint, printText_of_wraps h print]
  | sequence body => rw [write, write, writeAll_of_wraps h body through]

theorem writeAll_of_wraps {A B : Source} (h : A.Wraps B) (nodes : List Node)
    (through : TestsThrough (testsAll nodes)) :
    writeAll ⟨dialect, A⟩ nodes = writeAll ⟨dialect, B⟩ nodes := by
  funext p
  cases nodes with
  | nil => rfl
  | cons node rest =>
    obtain ⟨first, others⟩ := List.forall_mem_append.1 through
    rw [writeAll, writeAll, write_of_wraps h node first, writeAll_of_wraps h rest others]

theorem writeBranches_of_wraps {A B : Source} (h : A.Wraps B)
    (branches : List (Condition × List Node))
    (through : TestsThrough (testsOfBranches branches)) :
    writeBranches ⟨dialect, A⟩ branches = writeBranches ⟨dialect, B⟩ branches := by
  funext otherwise p
  cases branches with
  | nil => rfl
  | cons branch rest =>
    obtain ⟨test, body⟩ := branch
    obtain ⟨own, others⟩ := List.forall_mem_cons.1 through
    obtain ⟨inner, others⟩ := List.forall_mem_append.1 others
    simp only [writeBranches, holds_of_wraps h own, writeAll_of_wraps h body inner,
      writeBranches_of_wraps h rest others]

end

/-- With no functions in the tests but the three that measure, a rendering does not depend on the
layers of optional values around what the source answers with. -/
theorem render_of_wraps (h : A.Wraps B) (dialect : Dialect) {nodes : List Node}
    (measuring : ∀ test ∈ testsAll nodes, ∀ name ∈ test.expr.calls, name ∈ Registry.measures)
    (builtin : ∀ test ∈ testsAll nodes, ∀ name ∈ Registry.measures,
      test.functions.get? name = Registry.builtin.get? name) :
    render ⟨dialect, A⟩ nodes = render ⟨dialect, B⟩ nodes := by
  have through : TestsThrough (testsAll nodes) := by
    intro test found name called f known
    have measure := measuring test found name called
    rw [builtin test found name measure] at known
    exact Registry.looksThrough_of_measures measure known
  rw [render, render, writeAll_of_wraps h nodes through]

theorem render_of_wraps_list :
    let v : Value := .list [.integer 1, .present (.text "x")]
    let plain : Source := .ofBindings [("a", v)]
    let wrapped : Source := .ofBindings [("a", .present v)]
    let test : Condition := ⟨"isNotEmpty(a)", .call "isNotEmpty" [.param "a"], .builtin⟩
    let nodes : List Node := [.conditional test
      [.forEach ⟨"a", "item", "index", "(", ",", ")"⟩ [.text ⟨"", [(⟨"item"⟩, "")]⟩],
        .print ⟨"a", none, "", ""⟩]]
    plain.Wraps wrapped
      ∧ (∀ test ∈ testsAll nodes, ∀ name ∈ test.expr.calls, name ∈ Registry.measures)
      ∧ (∀ test ∈ testsAll nodes, ∀ name ∈ Registry.measures,
        test.functions.get? name = Registry.builtin.get? name)
      ∧ render ⟨.mysql, plain⟩ nodes = render ⟨.mysql, wrapped⟩ nodes
      ∧ render ⟨.mysql, wrapped⟩ nodes = .ok ("(?,?)[1 x]", [.integer 1, .text "x"]) := by
  intro v plain wrapped test nodes
  have inside : v.resolved ≠ .null := by simp [v, Value.resolved]
  have wraps : plain.Wraps wrapped := .ofBindings inside "a" []
  have measuring : ∀ test ∈ testsAll nodes, ∀ name ∈ test.expr.calls, name ∈ Registry.measures := by
    simp [nodes, test, testsAll, tests, Expr.calls, Expr.callsAll, Registry.measures]
  have builtin : ∀ test ∈ testsAll nodes, ∀ name ∈ Registry.measures,
      test.functions.get? name = Registry.builtin.get? name :=
    List.forall_mem_singleton.2 fun _ _ => rfl
  exact ⟨wraps, measuring, builtin, render_of_wraps wraps .mysql measuring builtin, rfl⟩

end Node

end SqlTemplate
