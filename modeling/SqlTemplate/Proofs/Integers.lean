import SqlTemplate.Condition.Eval
import SqlTemplate.Proofs.Calls

namespace SqlTemplate

namespace BinaryOp

def integral : List BinaryOp := [.add, .sub, .mul, .mod]

/-- The exact result of an operator. The remainder is that of the quotient truncated toward zero,
and there is none of a division by zero. -/
def result? : BinaryOp → Int → Int → Option Int
  | .add, x, y => some (x + y)
  | .sub, x, y => some (x - y)
  | .mul, x, y => some (x * y)
  | .mod, x, y => if y = 0 then none else some (x.tmod y)
  | _, _, _ => none

def Fails (op : BinaryOp) (x y : Int) : Prop :=
  (∃ z, op.result? x y = some z ∧ isInteger64 z = false)
    ∨ op = .mod ∧ (y = 0 ∨ x = minInteger ∧ y = -1)

end BinaryOp

namespace Expr

/-- Trees of integers: literals and parameters, under minus and the operators that stay among the
integers. A parameter may be an optional value that is present. -/
inductive Integral (source : Source) : Expr → Prop
  | literal {n} : isInteger64 n = true → Integral source (.literal (.integer n))
  | param {path v n} : source path = .ok (some v) → v.resolved = .integer n →
      isInteger64 n = true → Integral source (.param path)
  | neg {e} : Integral source e → Integral source (.unary .neg e)
  | binary {op l r} : op ∈ BinaryOp.integral → Integral source l → Integral source r →
      Integral source (.binary op l r)

def value? (source : Source) : Expr → Option Int
  | .literal v => v.asInteger?
  | .param path =>
    match source path with
    | .ok (some v) => v.resolved.asInteger?
    | _ => none
  | .unary .neg e => (value? source e).map fun x => -x
  | .binary op l r => do op.result? (← value? source l) (← value? source r)
  | _ => none

/-- Whether the operation at the root of a tree cannot be carried out on its exact operands. -/
inductive Faulty (source : Source) : Expr → Prop
  | neg {e x} : e.value? source = some x → isInteger64 (-x) = false →
      Faulty source (.unary .neg e)
  | binary {op l r x y} : l.value? source = some x → r.value? source = some y → op.Fails x y →
      Faulty source (.binary op l r)

end Expr

theorem isInteger64_tmod (x : Int) {y : Int} (fits : isInteger64 y = true) (nonzero : y ≠ 0) :
    isInteger64 (x.tmod y) = true := by
  have small : (x.tmod y).natAbs < y.natAbs := by
    rw [Int.natAbs_tmod]
    exact Nat.mod_lt _ (Int.natAbs_pos.2 nonzero)
  rw [isInteger64_iff, minInteger, maxInteger] at *
  omega

theorem checkedInteger_of_fits {n : Int} (fits : isInteger64 n = true) :
    checkedInteger n = .ok (.integer n) := if_pos fits

theorem checkedInteger_of_not_fits {n : Int} (outside : isInteger64 n = false) :
    checkedInteger n = .error (.evaluation .integerOverflow) := by
  rw [checkedInteger, if_neg (Bool.eq_false_iff.1 outside)]

namespace BinaryOp

variable {op : BinaryOp} {x y : Int}

theorem apply_of_not_fails (whole : op ∈ integral) (sound : ¬op.Fails x y) :
    ∃ z, op.result? x y = some z ∧ isInteger64 z = true
      ∧ op.apply (.integer x) (.integer y) = .ok (.integer z) := by
  obtain ⟨fits, proper⟩ := not_or.1 sound
  have inside {z : Int} (exact : op.result? x y = some z) : isInteger64 z = true := by
    cases inside : isInteger64 z with
    | true => rfl
    | false => exact absurd ⟨z, exact, inside⟩ fits
  cases op with
  | add => exact ⟨x + y, rfl, inside rfl, checkedInteger_of_fits (inside rfl)⟩
  | sub => exact ⟨x - y, rfl, inside rfl, checkedInteger_of_fits (inside rfl)⟩
  | mul => exact ⟨x * y, rfl, inside rfl, checkedInteger_of_fits (inside rfl)⟩
  | mod =>
    have proper : ¬(y = 0 ∨ x = minInteger ∧ y = -1) := fun improper => proper ⟨rfl, improper⟩
    have exact : BinaryOp.mod.result? x y = some (x.tmod y) := if_neg (not_or.1 proper).1
    exact ⟨x.tmod y, exact, inside exact, if_neg proper⟩
  | _ => exact absurd whole (by decide)

theorem apply_of_fails (whole : op ∈ integral) (fits : isInteger64 y = true)
    (fails : op.Fails x y) :
    ∃ fault, op.apply (.integer x) (.integer y) = .error (.evaluation fault) := by
  rcases fails with ⟨z, exact, outside⟩ | ⟨rfl, improper⟩
  · cases op with
    | add | sub | mul =>
      cases exact
      exact ⟨.integerOverflow, checkedInteger_of_not_fits outside⟩
    | mod =>
      simp only [result?] at exact
      split at exact
      · cases exact
      · next nonzero =>
        cases exact
        rw [isInteger64_tmod x fits nonzero] at outside
        cases outside
    | _ => exact absurd whole (by decide)
  · exact ⟨.undefinedModulo, if_pos improper⟩

end BinaryOp

namespace Expr

variable {functions : Registry} {source : Source} {e l r : Expr} {op : BinaryOp} {x y : Int}

inductive Outcome (functions : Registry) (source : Source) (e : Expr) : Prop
  | value (v : Value) (z : Int) : e.eval functions source = .ok v → v.resolved = .integer z →
      v = .integer z ∨ (∃ path, e = .param path ∧ source path = .ok (some v)) →
      e.value? source = some z → isInteger64 z = true → (∀ t, Part t e → ¬Faulty source t) →
      Outcome functions source e
  | fault (fault : EvaluationFault) (t : Expr) :
      e.eval functions source = .error (.evaluation fault) → Part t e → Faulty source t →
      Outcome functions source e

theorem Outcome.neg (h : Outcome functions source e) :
    Outcome functions source (.unary .neg e) := by
  cases h with
  | fault fault t failed part faulty =>
    refine .fault fault t ?_ (.operand part) faulty
    rw [eval, failed]
    rfl
  | value v z evaluated whole _ exact _ sound =>
    have negated : (unary .neg e).eval functions source = checkedInteger (-z) := by
      rw [eval, evaluated]
      simp only [bind, Except.bind, whole, negate]
    cases fits : isInteger64 (-z) with
    | false =>
      exact .fault .integerOverflow _ (negated.trans (checkedInteger_of_not_fits fits)) .self
        (.neg exact fits)
    | true =>
      refine .value (.integer (-z)) (-z) (negated.trans (checkedInteger_of_fits fits)) rfl
        (.inl rfl) (by rw [value?, exact]; rfl) fits ?_
      intro t part faulty
      cases part with
      | operand part => exact sound t part faulty
      | self =>
        cases faulty with
        | neg exact' outside =>
          obtain rfl := Option.some.inj (exact.symm.trans exact')
          exact absurd (fits.symm.trans outside) (by decide)

theorem eval_integral_binary (whole : op ∈ BinaryOp.integral) (l r : Expr) :
    (binary op l r).eval functions source = (do
      let a ← l.eval functions source
      let b ← r.eval functions source
      op.apply a.resolved b.resolved) := by
  apply eval_binary
  · rintro rfl
    exact absurd whole (by decide)
  · rintro rfl
    exact absurd whole (by decide)

theorem Outcome.binary (listed : op ∈ BinaryOp.integral) (left : Outcome functions source l)
    (right : Outcome functions source r) : Outcome functions source (.binary op l r) := by
  cases left with
  | fault fault t failed part faulty =>
    refine .fault fault t ?_ (.left part) faulty
    rw [eval_integral_binary listed, failed]
    rfl
  | value a x evaluated whole _ exact _ sound =>
    cases right with
    | fault fault t failed part faulty =>
      refine .fault fault t ?_ (.right part) faulty
      rw [eval_integral_binary listed, evaluated, failed]
      rfl
    | value b y evaluated' whole' _ exact' fits' sound' =>
      have applied : (Expr.binary op l r).eval functions source
          = op.apply (.integer x) (.integer y) := by
        rw [eval_integral_binary listed, evaluated, evaluated', ← whole, ← whole']
        rfl
      by_cases fails : op.Fails x y
      · obtain ⟨fault, failed⟩ := BinaryOp.apply_of_fails listed fits' fails
        exact .fault fault _ (applied.trans failed) .self (.binary exact exact' fails)
      · obtain ⟨z, result, fits, computed⟩ := BinaryOp.apply_of_not_fails listed fails
        refine .value (.integer z) z (applied.trans computed) rfl (.inl rfl)
          (by rw [value?, exact, exact']; exact result) fits ?_
        intro t part faulty
        cases part with
        | left part => exact sound t part faulty
        | right part => exact sound' t part faulty
        | self =>
          cases faulty with
          | binary exactLeft exactRight failing =>
            obtain rfl := Option.some.inj (exact.symm.trans exactLeft)
            obtain rfl := Option.some.inj (exact'.symm.trans exactRight)
            exact fails failing

theorem Integral.outcome (h : Integral source e) (functions : Registry) :
    Outcome functions source e := by
  induction h with
  | @literal n fits =>
    refine .value (.integer n) n (by rw [eval]) rfl (.inl rfl) rfl fits ?_
    rintro t ⟨⟩ ⟨⟩
  | @param path v n found whole fits =>
    refine .value v n ?_ whole (.inr ⟨path, rfl, found⟩) ?_ fits ?_
    · rw [eval, found]
      rfl
    · rw [value?, found]
      simp only [whole, Value.asInteger?]
    · rintro t ⟨⟩ ⟨⟩
  | neg _ ih => exact ih.neg
  | binary listed _ _ left right => exact left.binary listed right

/-- Integer arithmetic is exact or an error. A tree of integers has no value but the exact one, and
it fails if and only if one of its operations cannot be carried out in 64 bits. -/
theorem eval_integral {e : Expr} (whole : Integral source e) (functions : Registry) :
    (∀ v, e.eval functions source = .ok v → ∃ z, e.value? source = some z
      ∧ isInteger64 z = true ∧ v.resolved = .integer z
      ∧ (v = .integer z ∨ ∃ path, e = .param path ∧ source path = .ok (some v)))
    ∧ ((∃ error, e.eval functions source = .error error) ↔ ∃ t, Part t e ∧ Faulty source t)
    ∧ ∀ error, e.eval functions source = .error error → ∃ fault, error = .evaluation fault := by
  cases whole.outcome functions with
  | value v z evaluated integer bare exact fits sound =>
    rw [evaluated]
    refine ⟨?_, ⟨nofun, ?_⟩, nofun⟩
    · rintro _ ⟨⟩
      exact ⟨z, exact, fits, integer, bare⟩
    · rintro ⟨t, part, faulty⟩
      exact absurd faulty (sound t part)
  | fault fault t failed part faulty =>
    rw [failed]
    refine ⟨nofun, ⟨fun _ => ⟨t, part, faulty⟩, fun _ => ⟨_, rfl⟩⟩, ?_⟩
    rintro _ ⟨⟩
    exact ⟨fault, rfl⟩

theorem eval_integral_largest :
    let source : Source := fun _ => .ok (some (.present (.integer maxInteger)))
    let sum : Expr := .binary .add (.param "m") (.literal (.integer 1))
    let e : Expr := .binary .sub sum (.literal (.integer 1))
    Integral source e ∧ e.value? source = some maxInteger ∧ isInteger64 maxInteger = true
    ∧ ∃ fault, e.eval .empty source = .error (.evaluation fault) := by
  intro source sum e
  have whole : Integral source e :=
    .binary (by decide) (.binary (by decide) (.param rfl rfl (by decide)) (.literal (by decide)))
      (.literal (by decide))
  have faulty : Faulty source sum := .binary rfl rfl (.inl ⟨maxInteger + 1, rfl, by decide⟩)
  obtain ⟨-, fails_iff, origin⟩ := eval_integral whole .empty
  obtain ⟨error, failed⟩ := fails_iff.2 ⟨sum, .left .self, faulty⟩
  obtain ⟨fault, rfl⟩ := origin error failed
  exact ⟨whole, rfl, by decide, fault, failed⟩

end Expr
end SqlTemplate
