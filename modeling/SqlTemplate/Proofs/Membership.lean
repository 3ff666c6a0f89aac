import SqlTemplate.Condition.Eval

namespace SqlTemplate

namespace Expr

variable {functions : Registry} {source : Source} {x d c : Expr} {es before : List Expr} {v : Value}

def equalities (x : Expr) : List Expr → Expr
  | [] => .literal (.boolean false)
  | e :: es => es.foldl (fun d c => .binary .or d (.binary .eq x c)) (.binary .eq x e)

def Differ (functions : Registry) (source : Source) (v : Value) (es : List Expr) : Prop :=
  ∀ e ∈ es, ∃ w, e.eval functions source = .ok w ∧ v.resolved.agrees w.resolved = false

theorem eval_eq (x c : Expr) : (binary .eq x c).eval functions source =
    (do
      let a ← x.eval functions source
      let b ← c.eval functions source
      return .boolean (a.resolved.agrees b.resolved)) :=
  eval_binary (nofun : BinaryOp.eq ≠ .and) nofun functions source x c

theorem eval_foldl_or {found : Value → Except Error Bool}
    (front : d.eval functions source
      = (do return .boolean (← found (← x.eval functions source)))) :
    (es.foldl (fun d c => .binary .or d (.binary .eq x c)) d).eval functions source
      = (do
        let v ← x.eval functions source
        if ← found v then return .boolean true else evalWithin functions source v es) := by
  induction es generalizing d found with
  | nil =>
    rw [List.foldl_nil, front]
    refine bind_congr fun v => bind_congr fun b => ?_
    cases b <;> rfl
  | cons c es ih =>
    have next : (binary .or d (binary .eq x c)).eval functions source
        = (do
          let v ← x.eval functions source
          return .boolean (← (do
            if ← found v then return true
            else return v.resolved.agrees (← c.eval functions source).resolved))) := by
      rw [eval, front, eval_eq]
      cases x.eval functions source with
      | error _ => rfl
      | ok v =>
        cases h : found v with
        | error _ => simp [h, bind, Except.bind]
        | ok b =>
          cases b with
          | true => simp [h, bind, Except.bind, pure, Except.pure, truth, Value.resolved]
          | false =>
            cases c.eval functions source <;>
              simp [h, bind, Except.bind, pure, Except.pure, truth, Value.resolved]
    rw [List.foldl_cons, ih next]
    refine bind_congr fun v => ?_
    cases found v with
    | error _ => rfl
    | ok b =>
      cases b with
      | true => rfl
      | false =>
        rw [evalWithin]
        cases c.eval functions source <;> rfl

theorem eval_equalities (x e : Expr) (es : List Expr) :
    (equalities x (e :: es)).eval functions source
      = (within x (e :: es)).eval functions source := by
  have front : (binary .eq x e).eval functions source
      = (do
        let v ← x.eval functions source
        return .boolean (← (do
          return v.resolved.agrees (← e.eval functions source).resolved))) := by
    rw [eval_eq]
    cases x.eval functions source with
    | error _ => rfl
    | ok v => cases e.eval functions source <;> rfl
  rw [equalities, eval_foldl_or front, eval]
  refine bind_congr fun v => ?_
  rw [evalWithin]
  cases e.eval functions source <;> rfl

theorem evalWithin_append (differ : Differ functions source v before) (es : List Expr) :
    evalWithin functions source v (before ++ es) = evalWithin functions source v es := by
  induction before with
  | nil => rfl
  | cons e before ih =>
    obtain ⟨⟨w, first, unequal⟩, others⟩ := List.forall_mem_cons.1 differ
    rw [List.cons_append, evalWithin, first, ← ih others]
    simp [bind, Except.bind, unequal]

theorem eval_within_append (needle : x.eval functions source = .ok v)
    (differ : Differ functions source v before) (es : List Expr) :
    (within x (before ++ es)).eval functions source = evalWithin functions source v es := by
  rw [eval, needle]
  exact evalWithin_append differ es

/-- A test with `in` is the chain of equalities with its candidates, value for value and error for
error. The candidate that decides is the first that is equal or fails; whatever stands behind it is
not evaluated. -/
theorem eval_within_eq_equalities (functions : Registry) (source : Source) (x : Expr) :
    (∀ e es, (within x (e :: es)).eval functions source
      = (equalities x (e :: es)).eval functions source)
    ∧ (∀ error, x.eval functions source = .error error →
      ∀ es, (within x es).eval functions source = .error error)
    ∧ ∀ v, x.eval functions source = .ok v → ∀ before, Differ functions source v before →
      (within x before).eval functions source = .ok (.boolean false)
      ∧ ∀ c behind,
        (∀ w, c.eval functions source = .ok w → v.resolved.agrees w.resolved = true →
          (within x (before ++ c :: behind)).eval functions source = .ok (.boolean true))
        ∧ (∀ error, c.eval functions source = .error error →
          (within x (before ++ c :: behind)).eval functions source = .error error) := by
  refine ⟨fun e es => (eval_equalities x e es).symm, ?_, ?_⟩
  · intro error failed es
    rw [eval, failed]
    rfl
  · intro v needle before differ
    constructor
    · have all := eval_within_append needle differ []
      rwa [List.append_nil] at all
    · intro c behind
      constructor
      · intro w candidate equal
        rw [eval_within_append needle differ, evalWithin, candidate]
        simp [bind, Except.bind, pure, Except.pure, equal]
      · intro error failed
        rw [eval_within_append needle differ, evalWithin, failed]
        rfl

theorem eval_within_eq_equalities_second :
    let source : Source := .ofBindings [("a", .present (.integer 7))]
    let fails : Expr := .binary .lt (.literal (.text "x")) (.literal (.integer 1))
    let es : List Expr := [.literal (.integer 1), .literal (.integer 7), fails]
    fails.eval .empty source = .error (.evaluation (.incomparable .text .integer))
    ∧ (within (.param "a") es).eval .empty source = .ok (.boolean true)
    ∧ (equalities (.param "a") es).eval .empty source = .ok (.boolean true) := by
  intro source fails es
  obtain ⟨same, -, decides⟩ := eval_within_eq_equalities .empty source (.param "a")
  have needle : (Expr.param "a").eval .empty source = .ok (.present (.integer 7)) := by
    rw [eval, show source "a" = .ok (some (.present (.integer 7))) by cbv]
    rfl
  have differ : Differ .empty source (.present (.integer 7)) [.literal (.integer 1)] :=
    List.forall_mem_singleton.2 ⟨.integer 1, by rw [eval], by decide +kernel⟩
  have second := ((decides _ needle _ differ).2 (.literal (.integer 7)) [fails]).1 (.integer 7)
    (by rw [eval]) (by decide +kernel)
  exact ⟨by cbv, second, (same _ _).symm.trans second⟩

end Expr
end SqlTemplate
