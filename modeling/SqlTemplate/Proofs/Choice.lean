import SqlTemplate.Proofs.Lockstep
import SqlTemplate.Proofs.Nil

namespace SqlTemplate

namespace Expr

/-- What a test says: whether it holds, or nothing where it comes to an error, to nil or to any
other value that is no truth value. -/
def verdict (functions : Registry) (source : Source) (e : Expr) : Option Bool :=
  match e.eval functions source with
  | .ok v => v.resolved.asBoolean?
  | .error _ => none

def conjunction : List Expr → Expr
  | [] => .literal (.boolean true)
  | e :: es => es.foldl (.binary .and) e

def negations (es : List Expr) : List Expr := es.map (.unary .not)

def guarded (passed : List Expr) (e : Expr) : Expr := conjunction (negations passed ++ [e])

variable {functions : Registry} {source : Source} {e l r : Expr} {es more : List Expr}

theorem truth_eq (operator : Connective) (v : Value) : truth operator v =
    match v.resolved.asBoolean? with
    | some b => .ok b
    | none => .error (.evaluation (.notBoolean operator v.resolved.kind)) := by
  rw [truth]
  cases v.resolved <;> rfl

theorem verdict_not (e : Expr) :
    (unary .not e).verdict functions source = (e.verdict functions source).map (!·) := by
  rw [verdict, verdict, eval]
  cases e.eval functions source with
  | error _ => rfl
  | ok v =>
    simp only [bind, Except.bind, truth_eq]
    cases v.resolved.asBoolean? <;> rfl

theorem verdict_and (l r : Expr) : (binary .and l r).verdict functions source =
    match l.verdict functions source with
    | some true => r.verdict functions source
    | some false => some false
    | none => none := by
  rw [verdict, verdict, eval]
  cases l.eval functions source with
  | error _ => rfl
  | ok v =>
    simp only [bind, Except.bind, truth_eq]
    cases v.resolved.asBoolean? with
    | none => rfl
    | some b =>
      cases b with
      | false => rfl
      | true =>
        simp only [verdict]
        cases r.eval functions source with
        | error _ => rfl
        | ok w =>
          dsimp only
          cases w.resolved.asBoolean? <;> rfl

theorem verdict_foldl_congr (same : l.verdict functions source = r.verdict functions source) :
    (es.foldl (binary .and) l).verdict functions source
      = (es.foldl (binary .and) r).verdict functions source := by
  induction es generalizing l r with
  | nil => exact same
  | cons e es ih => exact ih (by rw [verdict_and, verdict_and, same])

theorem verdict_foldl_of_false (no : e.verdict functions source = some false) :
    (es.foldl (binary .and) e).verdict functions source = some false := by
  induction es generalizing e with
  | nil => exact no
  | cons d es ih => exact ih (by rw [verdict_and, no])

theorem verdict_conjunction_append (yes : ∀ e ∈ es, e.verdict functions source = some true)
    (there : more ≠ []) : (conjunction (es ++ more)).verdict functions source
      = (conjunction more).verdict functions source := by
  induction es with
  | nil => rfl
  | cons e es ih =>
    obtain ⟨first, others⟩ := List.forall_mem_cons.1 yes
    rw [← ih others]
    cases h : es ++ more with
    | nil => exact absurd (List.append_eq_nil_iff.1 h).2 there
    | cons d rest =>
      rw [List.cons_append, h, conjunction, conjunction, List.foldl_cons]
      exact verdict_foldl_congr (by rw [verdict_and, first])

theorem verdict_conjunction_of_true (yes : ∀ e ∈ es, e.verdict functions source = some true) :
    (conjunction es).verdict functions source = some true := by
  cases es using List.reverseRecOn with
  | nil => rfl
  | append_singleton es e =>
    obtain ⟨others, last⟩ := List.forall_mem_append.1 yes
    rw [verdict_conjunction_append others (List.cons_ne_nil e [])]
    exact last e (List.mem_singleton_self e)

theorem verdict_negations (no : ∀ e ∈ es, e.verdict functions source = some false) :
    ∀ e ∈ negations es, e.verdict functions source = some true := by
  intro e found
  obtain ⟨d, inside, rfl⟩ := List.mem_map.1 found
  rw [verdict_not, no d inside]
  rfl

theorem verdict_guarded (no : ∀ e ∈ es, e.verdict functions source = some false) (e : Expr) :
    (guarded es e).verdict functions source = e.verdict functions source :=
  verdict_conjunction_append (verdict_negations no) (List.cons_ne_nil e [])

def Settled (functions : Registry) (source : Source) (es : List Expr) : Prop :=
  ∃ before e behind, es = before ++ e :: behind
    ∧ (∀ d ∈ before, d.verdict functions source = some false)
    ∧ e.verdict functions source = some true

theorem Settled.append (h : Settled functions source es) (more : List Expr) :
    Settled functions source (es ++ more) := by
  obtain ⟨before, e, behind, rfl, no, yes⟩ := h
  exact ⟨before, e, behind ++ more, by simp, no, yes⟩

theorem Settled.verdict_conjunction (h : Settled functions source es) (more : List Expr) :
    (conjunction (negations es ++ more)).verdict functions source = some false := by
  obtain ⟨before, e, behind, rfl, no, yes⟩ := h
  have here : (unary .not e).verdict functions source = some false := by
    rw [verdict_not, yes]
    rfl
  have split : negations (before ++ e :: behind) ++ more
      = negations before ++ .unary .not e :: (negations behind ++ more) := by simp [negations]
  rw [split, verdict_conjunction_append (verdict_negations no) (List.cons_ne_nil _ _)]
  exact verdict_foldl_of_false here

end Expr

def Condition.verdict (source : Source) (test : Condition) : Option Bool :=
  test.expr.verdict test.functions source

namespace Node

open SqlTemplate.Expr (guarded negations conjunction Settled)
open Parting (failures)

variable {functions : Registry} {source : Source} {ctx : Context} {test : Condition}
  {body otherwise : List Node} {branches : List (Condition × List Node)} {passed : List Expr}
  {p : Printer}

theorem holds_of_verdict {b : Bool} (said : test.verdict source = some b) (body : List Node) :
    holds source test body = .ok b := by
  rw [Condition.verdict, Expr.verdict] at said
  rw [holds]
  cases h : test.expr.eval test.functions source with
  | error e =>
    rw [h] at said
    cases said
  | ok v =>
    simp only [h] at said
    simp only [bind, Except.bind]
    cases k : v.resolved <;> rw [k] at said <;> cases said
    rfl

theorem exists_holds_of_verdict (said : test.verdict source = none) (body : List Node) :
    ∃ e, holds source test body = .error e := by
  rw [Condition.verdict, Expr.verdict] at said
  rw [holds]
  cases h : test.expr.eval test.functions source with
  | error e => exact ⟨e, rfl⟩
  | ok v =>
    simp only [h] at said
    simp only [bind, Except.bind]
    cases k : v.resolved <;> first | exact ⟨_, rfl⟩ | (rw [k] at said; cases said)

/-- The conditionals that stand for a choice, whose words for their tests may be any. The tests of
branches that were passed before are negated in front of each test, and of the default. -/
def conditionals (functions : Registry) (spell : Expr → String) (passed : List Expr) :
    List (Condition × List Node) → List Node → List Node
  | [], otherwise =>
    let e := conjunction (negations passed)
    if otherwise.isEmpty then [] else [.conditional ⟨spell e, e, functions⟩ otherwise]
  | (test, body) :: rest, otherwise =>
    let e := guarded passed test.expr
    .conditional ⟨spell e, e, functions⟩ body
      :: conditionals functions spell (passed ++ [test.expr]) rest otherwise

variable {e : Expr}

theorem write_conditional_of_true (said : e.verdict functions ctx.source = some true)
    (spelled : String) (body : List Node) (p : Printer) :
    write ctx (.conditional ⟨spelled, e, functions⟩ body) p = writeAll ctx body p := by
  have asked : (Condition.mk spelled e functions).verdict ctx.source = some true := said
  rw [write, holds_of_verdict asked]

theorem write_conditional_of_false (said : e.verdict functions ctx.source = some false)
    (spelled : String) (body : List Node) (p : Printer) :
    write ctx (.conditional ⟨spelled, e, functions⟩ body) p = p := by
  have asked : (Condition.mk spelled e functions).verdict ctx.source = some false := said
  rw [write, holds_of_verdict asked]

theorem isFailed_conditional_of_none (said : e.verdict functions ctx.source = none)
    (spelled : String) (body : List Node) (p : Printer) :
    (write ctx (.conditional ⟨spelled, e, functions⟩ body) p).isFailed = true := by
  have asked : (Condition.mk spelled e functions).verdict ctx.source = none := said
  obtain ⟨error, failed⟩ := exists_holds_of_verdict asked body
  rw [write, failed]
  exact p.isFailed_fail error

theorem writeAll_conditionals_of_settled {spell : Expr → String}
    (settled : Settled functions ctx.source passed) (ok : p.isFailed = false) :
    writeAll ctx (conditionals functions spell passed branches otherwise) p = p := by
  induction branches generalizing passed with
  | nil =>
    cases otherwise with
    | nil => rfl
    | cons node rest =>
      have no := settled.verdict_conjunction []
      rw [List.append_nil] at no
      simp only [conditionals, List.isEmpty_cons, Bool.false_eq_true, if_false, writeAll,
        write_conditional_of_false no, ite_self]
  | cons branch rest ih =>
    have no := settled.verdict_conjunction [branch.1.expr]
    simp only [conditionals, writeAll, guarded, write_conditional_of_false no, ok,
      Bool.false_eq_true, if_false]
    exact ih (settled.append [branch.1.expr])

theorem lockstep_conditionals (spell : Expr → String) {branches : List (Condition × List Node)}
    (shared : ∀ branch ∈ branches, branch.1.functions = functions) (otherwise : List Node)
    (no : ∀ e ∈ passed, e.verdict functions ctx.source = some false) :
    failures.Lockstep (writeBranches ctx branches (writeAll ctx otherwise))
      (writeAll ctx (conditionals functions spell passed branches otherwise)) := by
  induction branches generalizing passed with
  | nil =>
    intro p ok
    cases otherwise with
    | nil => exact .inl rfl
    | cons node rest =>
      have yes := Expr.verdict_conjunction_of_true (Expr.verdict_negations no)
      left
      simp only [writeBranches, conditionals, List.isEmpty_cons, Bool.false_eq_true, if_false,
        write_conditional_of_true yes, writeAll, ite_self]
  | cons branch rest ih =>
    obtain ⟨test, body⟩ := branch
    obtain ⟨own, others⟩ := List.forall_mem_cons.1 shared
    intro p ok
    have same : (guarded passed test.expr).verdict functions ctx.source
        = test.verdict ctx.source := by
      rw [Expr.verdict_guarded no, Condition.verdict, own]
    rw [writeBranches, conditionals, writeAll]
    cases said : test.verdict ctx.source with
    | none =>
      obtain ⟨e, failed⟩ := exists_holds_of_verdict said body
      right
      simp only [failed, isFailed_conditional_of_none (same.trans said), if_true]
      exact ⟨p.isFailed_fail e, isFailed_conditional_of_none (same.trans said) _ body p⟩
    | some b =>
      cases b with
      | true =>
        left
        -- The choice ends here; the row goes on, behind the negation of a test that holds.
        have settled : Settled functions ctx.source (passed ++ [test.expr]) :=
          ⟨passed, test.expr, [], rfl, no, own ▸ said⟩
        simp only [holds_of_verdict said, write_conditional_of_true (same.trans said)]
        cases ended : (writeAll ctx body p).isFailed with
        | true => rfl
        | false => exact (writeAll_conditionals_of_settled settled ended).symm
      | false =>
        have noneYet : ∀ e ∈ passed ++ [test.expr],
            e.verdict functions ctx.source = some false :=
          List.forall_mem_append.2 ⟨no, List.forall_mem_singleton.2 (own ▸ said)⟩
        simp only [holds_of_verdict said, write_conditional_of_false (same.trans said), ok,
          Bool.false_eq_true, if_false]
        exact ih others noneYet p ok

theorem lockstep_choose (spell : Expr → String) {branches : List (Condition × List Node)}
    (shared : ∀ branch ∈ branches, branch.1.functions = functions) (otherwise : List Node) :
    failures.Lockstep (write ctx (.choose branches otherwise))
      (writeAll ctx (conditionals functions spell [] branches otherwise)) := by
  have none : ∀ e ∈ ([] : List Expr), e.verdict functions ctx.source = some false := nofun
  intro p ok
  rw [write]
  exact lockstep_conditionals spell shared otherwise none p ok

theorem write_choose_append {before : List (Condition × List Node)}
    (no : ∀ branch ∈ before, branch.1.verdict ctx.source = some false)
    (behind : List (Condition × List Node)) (otherwise : List Node) (p : Printer) :
    write ctx (.choose (before ++ behind) otherwise) p
      = write ctx (.choose behind otherwise) p := by
  rw [write, write]
  exact writeBranches_append (fun branch found => holds_of_verdict (no branch found) branch.2)
    behind _ p

theorem write_choose_of_true {before : List (Condition × List Node)}
    (no : ∀ branch ∈ before, branch.1.verdict ctx.source = some false)
    (said : test.verdict ctx.source = some true)
    (behind : List (Condition × List Node)) (otherwise : List Node) (p : Printer) :
    write ctx (.choose (before ++ (test, body) :: behind) otherwise) p = writeAll ctx body p := by
  rw [write_choose_append no, write, writeBranches, holds_of_verdict said]

theorem isFailed_choose_of_none {before : List (Condition × List Node)}
    (no : ∀ branch ∈ before, branch.1.verdict ctx.source = some false)
    (said : test.verdict ctx.source = none) (body : List Node)
    (behind : List (Condition × List Node)) (otherwise : List Node) (p : Printer) :
    (write ctx (.choose (before ++ (test, body) :: behind) otherwise) p).isFailed = true := by
  obtain ⟨e, failed⟩ := exists_holds_of_verdict said body
  rw [write_choose_append no, write, writeBranches, failed]
  exact p.isFailed_fail e

theorem write_choose_of_false
    (no : ∀ branch ∈ branches, branch.1.verdict ctx.source = some false)
    (otherwise : List Node) (p : Printer) :
    write ctx (.choose branches otherwise) p = writeAll ctx otherwise p := by
  have comes := write_choose_append no [] otherwise p
  rw [List.append_nil] at comes
  rw [comes, write, writeBranches]

/-- A choice fails where the row of conditionals fails that stand for it, and otherwise both append
the same text and the same values. It writes the first branch whose test holds, whatever the tests
behind it are, or else its default; a test that is no truth value makes both fail, unless one
before it holds. The branches are built together, so that their tests call the same functions. -/
theorem write_choose_conditionals (spell : Expr → String) (ctx : Context) {functions : Registry}
    {branches : List (Condition × List Node)}
    (shared : ∀ branch ∈ branches, branch.1.functions = functions) (otherwise : List Node)
    {p : Printer} (ok : p.isFailed = false) :
    let chosen := write ctx (.choose branches otherwise) p
    let row := writeAll ctx (conditionals functions spell [] branches otherwise) p
    (chosen.isFailed = true ↔ row.isFailed = true)
    ∧ (chosen.isFailed = false → ∃ text values,
      chosen = (p.write text).push values ∧ row = (p.write text).push values)
    ∧ (∀ before test body behind, branches = before ++ (test, body) :: behind →
      (∀ branch ∈ before, branch.1.verdict ctx.source = some false) →
      (test.verdict ctx.source = some true → chosen = writeAll ctx body p)
      ∧ (test.verdict ctx.source = none →
        chosen.isFailed = true ∧ row.isFailed = true))
    ∧ ((∀ branch ∈ branches, branch.1.verdict ctx.source = some false) →
      chosen = writeAll ctx otherwise p) := by
  intro chosen row
  have either : chosen = row ∨ chosen.isFailed = true ∧ row.isFailed = true :=
    lockstep_choose spell shared otherwise p ok
  have failing : chosen.isFailed = true ↔ row.isFailed = true := by
    rcases either with same | ⟨here, there⟩
    · rw [same]
    · exact ⟨fun _ => there, fun _ => here⟩
  refine ⟨failing, ?_, ?_, ?_⟩
  · intro going
    have same : chosen = row := either.resolve_right fun failed => by simp [going] at failed
    obtain ⟨text, values, written⟩ := (writes_write ctx _).exists_eq ok going
    exact ⟨text, values, written, same ▸ written⟩
  · rintro before test body behind rfl no
    constructor
    · exact fun said => write_choose_of_true no said behind otherwise p
    · intro said
      have here := isFailed_choose_of_none no said body behind otherwise p
      exact ⟨here, failing.1 here⟩
  · exact fun no => write_choose_of_false no otherwise p

theorem write_choose_conditionals_second :
    let ctx : Context := ⟨.postgres, .ofBindings [("a", .boolean false),
      ("b", .present (.boolean true)), ("c", .null), ("id", .integer 7)]⟩
    let test (name : String) : Condition := ⟨name, .param name, .builtin⟩
    let found : List Node := [.text ⟨"id = ", [(⟨"id"⟩, "")]⟩]
    let branches : List (Condition × List Node) :=
      [(test "a", [.text ⟨"a", []⟩]), (test "b", found), (test "c", [.text ⟨"c", []⟩])]
    let p := Printer.start 2
    let chosen := write ctx (.choose branches [.text ⟨"none", []⟩]) p
    let row := writeAll ctx (conditionals .builtin (fun _ => "") [] branches [.text ⟨"none", []⟩]) p
    (∀ branch ∈ branches, branch.1.functions = .builtin)
      ∧ p.isFailed = false ∧ chosen.isFailed = false
      ∧ (test "a").verdict ctx.source = some false
      ∧ (test "b").verdict ctx.source = some true
      ∧ chosen = writeAll ctx found p
      ∧ ∃ text values, chosen = (p.write text).push values
        ∧ row = (p.write text).push values := by
  intro ctx test found branches p chosen row
  have going : chosen.isFailed = false := by decide +kernel
  have no : (test "a").verdict ctx.source = some false := by decide +kernel
  have yes : (test "b").verdict ctx.source = some true := by decide +kernel
  have shared : ∀ branch ∈ branches, branch.1.functions = .builtin := by simp [branches, test]
  obtain ⟨-, same, branch, -⟩ :=
    write_choose_conditionals (fun _ => "") ctx shared [.text ⟨"none", []⟩] (p := p) rfl
  obtain ⟨comes, -⟩ := branch [(test "a", [.text ⟨"a", []⟩])] (test "b") found
    [(test "c", [.text ⟨"c", []⟩])] rfl (List.forall_mem_singleton.2 no)
  exact ⟨shared, rfl, going, no, yes, comes yes, same going⟩

end Node
end SqlTemplate
