import SqlTemplate.Template.Render

namespace SqlTemplate

namespace Value

theorem agrees_null (v : Value) : v.agrees .null = v.isNil := by
  cases v <;> rfl

theorem isNil_of_eq_null {v : Value} (h : v = .null) : v.isNil = true := by
  rw [h, isNil]

end Value

namespace Function

variable {v : Value}

theorem absence?_of_resolved (nil : v.resolved = .null) : absence? v = some v.isNil := by
  cases v <;> first | rfl | cases nil

theorem isNull_of_resolved (nil : v.resolved = .null) : isNull [v] = .ok (.boolean v.isNil) := by
  simp only [isNull, allAbsent, absences, absence?_of_resolved nil]
  cases v.isNil <;> rfl

theorem isNotNull_of_resolved (nil : v.resolved = .null) :
    isNotNull [v] = .ok (.boolean !v.isNil) := by
  simp only [isNotNull, allAbsent, absences, absence?_of_resolved nil]
  cases v.isNil <;> rfl

end Function

namespace Expr

variable {functions : Registry} {source : Source} {p : String} {v : Value}

theorem eval_param_of_found (found : source p = .ok (some v)) :
    (Expr.param p).eval functions source = .ok v := by
  rw [eval, found]
  rfl

theorem eval_call_of_found (found : source p = .ok (some v)) {name : String} {f : Function}
    (known : functions.get? name = some f) :
    (Expr.call name [.param p]).eval functions source = f [v] := by
  simp only [eval, known, evalAll, found]
  rfl

theorem eval_eq_null (found : source p = .ok (some v)) :
    (Expr.binary .eq (.param p) (.literal .null)).eval functions source
      = .ok (.boolean v.resolved.isNil) := by
  simp only [eval, found, ← Value.agrees_null]
  rfl

theorem eval_notEq_null (found : source p = .ok (some v)) :
    (Expr.binary .notEq (.param p) (.literal .null)).eval functions source
      = .ok (.boolean !v.resolved.isNil) := by
  simp only [eval, found, ← Value.agrees_null]
  rfl

end Expr

namespace Node

variable {functions : Registry} {source : Source} {ctx : Context} {name : String} {v : Value}

theorem holds_of_nil (found : source name = .ok (some v)) (nil : v.resolved = .null)
    {test : Condition} (asked : test.expr = .param name) (body : List Node) :
    holds source test body
      = .error (.nilTest (Node.describe (.conditional test body))) := by
  rw [holds, asked, Expr.eval_param_of_found found]
  simp only [bind, Except.bind, nil]
  rfl

theorem writeBranches_append {before : List (Condition × List Node)}
    (passed : ∀ branch ∈ before, holds ctx.source branch.1 branch.2 = .ok false)
    (behind : List (Condition × List Node)) (otherwise : Printer → Printer) (p : Printer) :
    writeBranches ctx (before ++ behind) otherwise p = writeBranches ctx behind otherwise p := by
  induction before with
  | nil => rfl
  | cons branch before ih =>
    obtain ⟨first, others⟩ := List.forall_mem_cons.1 passed
    rw [List.cons_append, writeBranches, first]
    exact ih others

theorem loopElements_of_nil {loop : Loop} (found : source loop.collection = .ok (some v))
    (nil : v.resolved = .null) (shown : String) : loopElements source loop shown = .ok [] := by
  simp only [loopElements, found, nil]
  rfl

theorem bindMarker_of_nil {m : Marker} (found : source m.name = .ok (some v))
    (nil : v.resolved = .null) : MarkedText.bindMarker source m = .ok .null := by
  rw [MarkedText.bindMarker, found, ← nil]
  rfl

theorem printText_of_isNil {print : Print} (found : source print.name = .ok (some v))
    (nil : v.isNil = true) : printText source print = .error (.printMissing print.name) := by
  simp only [printText, found, nil]
  rfl

/-- A name with a value that is null inside equals nil, is no test, has no elements and binds
null, however many layers there are. The functions of optional values tell null and absent from
present; where nothing is present, a print misses the value. -/
theorem nil_of_resolved (found : ctx.source name = .ok (some v)) (nil : v.resolved = .null)
    (absent : functions.get? "isnull" = some .isNull)
    (present : functions.get? "isnotnull" = some .isNotNull) :
    (Expr.binary .eq (.param name) (.literal .null)).eval functions ctx.source
        = .ok (.boolean true)
      ∧ (Expr.binary .notEq (.param name) (.literal .null)).eval functions ctx.source
        = .ok (.boolean false)
      ∧ (Expr.call "isnull" [.param name]).eval functions ctx.source
        = .ok (.boolean v.isNil)
      ∧ (Expr.call "isnotnull" [.param name]).eval functions ctx.source
        = .ok (.boolean !v.isNil)
      ∧ (∀ test body p, test.expr = .param name → write ctx (.conditional test body) p
        = p.fail (.nilTest (describe (.conditional test body))))
      ∧ (∀ before test body behind otherwise p,
        (∀ branch ∈ before, holds ctx.source branch.1 branch.2 = .ok false) →
        test.expr = .param name → write ctx (.choose (before ++ (test, body) :: behind) otherwise) p
          = p.fail (.nilTest (describe (.conditional test body))))
      ∧ (∀ loop body p, loop.collection = name → write ctx (.forEach loop body) p = p)
      ∧ (∀ m : Marker, m.name = name → MarkedText.bindMarker ctx.source m = .ok .null)
      ∧ (v.isNil = true → ∀ print p, print.name = name →
        write ctx (.print print) p = p.fail (.printMissing name)) := by
  have inside : v.resolved.isNil = true := Value.isNil_of_eq_null nil
  refine ⟨?_, ?_, ?_, ?_, ?_, ?_, ?_, ?_, ?_⟩
  · rw [Expr.eval_eq_null found, inside]
  · rw [Expr.eval_notEq_null found, inside]
    rfl
  · rw [Expr.eval_call_of_found found absent, Function.isNull_of_resolved nil]
  · rw [Expr.eval_call_of_found found present, Function.isNotNull_of_resolved nil]
  · intro test body p asked
    rw [write, holds_of_nil found nil asked]
  · intro before test body behind otherwise p passed asked
    rw [write, writeBranches_append passed, writeBranches, holds_of_nil found nil asked]
  · rintro loop body p rfl
    rw [write, writeLoop, loopElements_of_nil found nil]
  · rintro m rfl
    exact bindMarker_of_nil found nil
  · rintro outer print p rfl
    rw [write, writePrint, printText_of_isNil found outer]

theorem nil_of_resolved_layers :
    let ctx : Context := ⟨.postgres, .ofBindings [("p", .present .absent)]⟩
    let test : Condition := ⟨"p", .param "p", .builtin⟩
    ctx.source "p" = .ok (some (.present .absent))
      ∧ (Value.present .absent).resolved = .null
      ∧ test.functions.get? "isnull" = some .isNull
      ∧ test.functions.get? "isnotnull" = some .isNotNull
      ∧ (Expr.binary .eq (.param "p") (.literal .null)).eval test.functions ctx.source
        = .ok (.boolean true)
      ∧ (Expr.call "isnull" [.param "p"]).eval test.functions ctx.source = .ok (.boolean false)
      ∧ (∀ body p, write ctx (.conditional test body) p
        = p.fail (.nilTest (describe (.conditional test body))))
      ∧ MarkedText.bindMarker ctx.source ⟨" p"⟩ = .ok .null := by
  intro ctx test
  have found : ctx.source "p" = .ok (some (.present .absent)) := rfl
  have known : test.functions.get? "isnull" = some .isNull := rfl
  have other : test.functions.get? "isnotnull" = some .isNotNull := rfl
  obtain ⟨equal, -, absent, -, failed, -, -, bound, -⟩ := nil_of_resolved found rfl known other
  exact ⟨found, rfl, known, other, equal, absent, fun body p => failed test body p rfl, bound _ rfl⟩

/-- A present null is null inside; the functions of optional values and a print take it for a
value. -/
theorem nil_of_present :
    let source : Source := .ofBindings [("p", .present .null)]
    (Value.present .null).resolved = .null
      ∧ source "p" = .ok (some (.present .null))
      ∧ (Expr.call "isnull" [.param "p"]).eval .builtin source = .ok (.boolean false)
      ∧ (Expr.call "isnotnull" [.param "p"]).eval .builtin source = .ok (.boolean true)
      ∧ printText source ⟨"p", none, "", ""⟩ = .ok "NULL" :=
  ⟨rfl, rfl, rfl, rfl, rfl⟩

end Node
end SqlTemplate
