import SqlTemplate.Condition.Eval
import SqlTemplate.Proofs.Decimal
import Mathlib.Order.Compare

namespace SqlTemplate

namespace Binary64

theorem wide_of_places (k : ℤ) {s : ℕ} (places : s ≤ 22) :
    (k : ℚ) / 10 ^ s = 0 ∨ 2 ^ 52 ≤ |(k : ℚ) / 10 ^ s| * unitsPerOne := by
  by_cases zero : k = 0
  · exact .inl (by rw [zero, Int.cast_zero, zero_div])
  · have large : ((2 ^ 126 : ℕ) : ℚ) ≤ unitsPerOne :=
      Nat.cast_le.2 (two_pow_le_unitsPerOne (by decide))
    have one : (1 : ℚ) ≤ |(k : ℚ)| := by exact_mod_cast Int.one_le_abs zero
    have power : (10 : ℚ) ^ s ≤ 10 ^ 22 := pow_le_pow_right₀ (by norm_num) places
    have positive : (0 : ℚ) < 10 ^ s := by positivity
    generalize (unitsPerOne : ℚ) = u at *
    rw [abs_div, abs_of_pos positive, div_mul_eq_mul_div, le_div_iff₀ positive]
    right
    push_cast at large
    nlinarith

theorem nearest_ne_of_digits {k l : ℤ} {s : ℕ} (digits : k.natAbs < 10 ^ 15) (places : s ≤ 22)
    (differ : k ≠ l) : nearest (k / 10 ^ s) ≠ nearest (l / 10 ^ s) := by
  intro same
  have left := abs_nearest_sub_le (wide_of_places k places)
  have right := abs_nearest_sub_le (wide_of_places l places)
  rw [same] at left
  have unit : (0 : ℚ) < unitsPerOne := by exact_mod_cast unitsPerOne_pos
  have positive : (0 : ℚ) < 10 ^ s := by positivity
  generalize (unitsPerOne : ℚ) = u at *
  generalize (10 : ℚ) ^ s = p at *
  have near := (abs_sub_le (k / p * u) (nearest (l / p)) (l / p * u)).trans
    (add_le_add ((abs_sub_comm _ _).trans_le left) right)
  have factor : 0 < u / p := div_pos unit positive
  have near : |(k : ℚ) - l| * (u / p) ≤ (|(k : ℚ)| + |(l : ℚ)|) / 2 ^ 53 * (u / p) := by
    calc |(k : ℚ) - l| * (u / p)
      _ = |(k - l) * (u / p)| := by rw [abs_mul, abs_of_pos factor]
      _ = |k / p * u - l / p * u| := by
        congr 1
        ring
      _ ≤ |k / p| * u / 2 ^ 53 + |l / p| * u / 2 ^ 53 := near
      _ = (|(k : ℚ)| + |(l : ℚ)|) / 2 ^ 53 * (u / p) := by
        rw [abs_div, abs_div, abs_of_pos positive]
        ring
  have near := le_of_mul_le_mul_right near factor
  rw [le_div_iff₀ (by norm_num)] at near
  have near : |k - l| * 2 ^ 53 ≤ |k| + |l| := by exact_mod_cast near
  simp only [Int.abs_eq_natAbs] at near
  omega

theorem nearest_ne_of_lt {k l : ℤ} (small : k.natAbs < 2 ^ 53) (differ : k ≠ l) :
    nearest k ≠ nearest l := by
  intro same
  have unit : (0 : ℤ) < unitsPerOne := by exact_mod_cast unitsPerOne_pos
  have exact := nearest_of_le (z := k) (by omega)
  rcases Int.lt_or_gt_of_ne differ with below | above
  · have next := nearest_of_le (z := k + 1) (by omega)
    have order : nearest ((k + 1 : ℤ) : ℚ) ≤ nearest l := nearest_mono (by exact_mod_cast below)
    rw [← same, exact, next] at order
    nlinarith
  · have next := nearest_of_le (z := k - 1) (by omega)
    have order : nearest l ≤ nearest ((k - 1 : ℤ) : ℚ) := by
      apply nearest_mono
      exact_mod_cast Int.le_sub_one_of_lt above
    rw [← same, exact, next] at order
    nlinarith

theorem nearest_ne_of_le {k l : ℤ} (hk : k.natAbs ≤ 2 ^ 53) (hl : l.natAbs ≤ 2 ^ 53)
    (differ : k ≠ l) : nearest k ≠ nearest l := by
  rw [nearest_of_le hk, nearest_of_le hl]
  intro same
  have unit : (unitsPerOne : ℤ) ≠ 0 := by exact_mod_cast unitsPerOne_pos.ne'
  exact differ (Int.eq_of_mul_eq_mul_right unit same)

theorem nearest_ne_of_places {k l : ℤ} {s t : ℕ} (digits : k.natAbs < 10 ^ 15) (places : s ≤ 22)
    (fewer : t ≤ s) (differ : (k : ℚ) / 10 ^ s ≠ l / 10 ^ t) :
    nearest (k / 10 ^ s) ≠ nearest (l / 10 ^ t) := by
  have power : (10 : ℚ) ^ s = 10 ^ t * 10 ^ (s - t) := by rw [← pow_add, Nat.add_sub_cancel' fewer]
  have spread : (l : ℚ) / 10 ^ t = (l * 10 ^ (s - t) : ℤ) / 10 ^ s := by
    rw [power]
    push_cast
    rw [mul_div_mul_right _ _ (by positivity)]
  rw [spread] at differ ⊢
  apply nearest_ne_of_digits digits places
  intro same
  exact differ (by rw [same])

end Binary64

namespace Value

open Binary64 (nearest)

inductive Denotes : Value → ℚ → Prop
  | integer {n : Int} : isInteger64 n = true → Denotes (.integer n) n
  | numeric (d : Decimal) : Denotes (.numeric d) d.toRat

def IsWhole : Value → Prop
  | .integer _ => True
  | .numeric d => d.scale = 0
  | _ => False

def IsWithin (limit : Nat) : Value → Prop
  | .integer n => n.natAbs ≤ limit
  | .numeric d => d.scale = 0 ∧ d.mantissa ≤ limit
  | _ => False

def IsShort : Value → Prop
  | .numeric d => d.IsShort
  | _ => False

/-- Pairs that rounding keeps apart. -/
inductive ToldApart : Value → Value → Prop
  | shortLeft {a b : Value} : a.IsShort → b.IsWhole ∨ b.IsShort → ToldApart a b
  | shortRight {a b : Value} : a.IsWhole ∨ a.IsShort → b.IsShort → ToldApart a b
  | smallLeft {a b : Value} : a.IsWithin (2 ^ 53 - 1) → b.IsWhole → ToldApart a b
  | smallRight {a b : Value} : a.IsWhole → b.IsWithin (2 ^ 53 - 1) → ToldApart a b
  | within {a b : Value} : a.IsWithin (2 ^ 53) → b.IsWithin (2 ^ 53) → ToldApart a b

variable {a b v : Value} {x y : ℚ}

theorem natAbs_le_of_isInteger64 {n : Int} (h : isInteger64 n = true) : n.natAbs ≤ 2 ^ 96 := by
  rw [isInteger64_iff, minInteger, maxInteger] at h
  omega

theorem Denotes.exists_units? (h : v.Denotes x) :
    ∃ u z, v.asReal? = some u ∧ u.units? = some z := by
  cases h with
  | integer bounded => exact ⟨_, _, rfl, Binary64.units?_ofInt (natAbs_le_of_isInteger64 bounded)⟩
  | numeric d =>
    obtain ⟨z, units⟩ := d.exists_units?_toBinary64
    exact ⟨_, z, rfl, units⟩

theorem Denotes.units? (h : v.Denotes x) (plain : v.IsWhole ∨ v.IsShort) :
    ∃ u, v.asReal? = some u ∧ u.units? = some (nearest x) := by
  cases h with
  | integer bounded => exact ⟨_, rfl, Binary64.units?_ofInt (natAbs_le_of_isInteger64 bounded)⟩
  | numeric d =>
    rcases plain with whole | short
    · exact ⟨_, rfl, d.units?_toBinary64_of_scale_eq_zero whole⟩
    · exact ⟨_, rfl, d.units?_toBinary64_of_isShort short⟩

theorem Denotes.exists_int (h : v.Denotes x) (whole : v.IsWhole) : ∃ k : ℤ, x = k := by
  cases h with
  | integer _ => exact ⟨_, rfl⟩
  | numeric d => exact ⟨d.signed, d.toRat_of_scale_eq_zero whole⟩

theorem Denotes.exists_int_le {limit : Nat} (h : v.Denotes x) (within : v.IsWithin limit) :
    ∃ k : ℤ, x = k ∧ k.natAbs ≤ limit := by
  cases h with
  | integer _ => exact ⟨_, rfl, within⟩
  | numeric d =>
    refine ⟨d.signed, d.toRat_of_scale_eq_zero within.1, ?_⟩
    rw [d.natAbs_signed]
    exact within.2

theorem Denotes.exists_digits (h : v.Denotes x) (short : v.IsShort) :
    ∃ (k : ℤ) (s : ℕ), x = k / 10 ^ s ∧ k.natAbs < 10 ^ 15 ∧ s ≤ 22 := by
  cases h with
  | integer _ => exact short.elim
  | numeric d =>
    refine ⟨d.signed, d.scale, ?_, ?_, short.2⟩
    · rw [Decimal.toRat, Nat.pow_eq, Nat.cast_pow, Nat.cast_ofNat]
    · rw [d.natAbs_signed]
      exact short.1

theorem nearest_ne_of_isShort (hx : a.Denotes x) (hy : b.Denotes y) (short : a.IsShort)
    (plain : b.IsWhole ∨ b.IsShort) (differ : x ≠ y) : nearest x ≠ nearest y := by
  obtain ⟨k, s, rfl, few, places⟩ := hx.exists_digits short
  rcases plain with whole | other
  · obtain ⟨l, rfl⟩ := hy.exists_int whole
    have unplaced : (l : ℚ) = l / 10 ^ 0 := by rw [pow_zero, div_one]
    rw [unplaced] at differ ⊢
    exact Binary64.nearest_ne_of_places few places (Nat.zero_le s) differ
  · obtain ⟨l, t, rfl, less, limit⟩ := hy.exists_digits other
    rcases Nat.le_total t s with fewer | more
    · exact Binary64.nearest_ne_of_places few places fewer differ
    · exact (Binary64.nearest_ne_of_places less limit more differ.symm).symm

theorem nearest_ne_of_isWithin (hx : a.Denotes x) (hy : b.Denotes y)
    (small : a.IsWithin (2 ^ 53 - 1)) (whole : b.IsWhole) (differ : x ≠ y) :
    nearest x ≠ nearest y := by
  obtain ⟨k, rfl, bound⟩ := hx.exists_int_le small
  obtain ⟨l, rfl⟩ := hy.exists_int whole
  apply Binary64.nearest_ne_of_lt (by omega)
  exact_mod_cast differ

theorem ToldApart.nearest_ne (apart : ToldApart a b) (hx : a.Denotes x) (hy : b.Denotes y)
    (differ : x ≠ y) : nearest x ≠ nearest y := by
  cases apart with
  | shortLeft short plain => exact nearest_ne_of_isShort hx hy short plain differ
  | shortRight plain short => exact (nearest_ne_of_isShort hy hx short plain differ.symm).symm
  | smallLeft small whole => exact nearest_ne_of_isWithin hx hy small whole differ
  | smallRight whole small => exact (nearest_ne_of_isWithin hy hx small whole differ.symm).symm
  | within left right =>
    obtain ⟨k, rfl, hk⟩ := hx.exists_int_le left
    obtain ⟨l, rfl, hl⟩ := hy.exists_int_le right
    apply Binary64.nearest_ne_of_le hk hl
    exact_mod_cast differ

theorem IsWithin.isWhole {limit : Nat} (h : v.IsWithin limit) : v.IsWhole := by
  cases v with
  | integer n => exact trivial
  | numeric d => exact h.1
  | _ => exact h.elim

theorem ToldApart.left (apart : ToldApart a b) : a.IsWhole ∨ a.IsShort := by
  cases apart with
  | shortLeft short _ => exact .inr short
  | shortRight plain _ => exact plain
  | smallLeft small _ => exact .inl small.isWhole
  | smallRight whole _ => exact .inl whole
  | within left _ => exact .inl left.isWhole

theorem ToldApart.right (apart : ToldApart a b) : b.IsWhole ∨ b.IsShort := by
  cases apart with
  | shortLeft _ plain => exact plain
  | shortRight _ short => exact .inr short
  | smallLeft _ whole => exact .inl whole
  | smallRight _ small => exact .inl small.isWhole
  | within _ right => exact .inl right.isWhole

/-- The order of the binary64 forms of two numbers. -/
def viewOrder? (a b : Value) : Option Ordering := do (← a.asReal?).compare? (← b.asReal?)

theorem viewOrder?_eq {u w : Binary64} {i j : Int} (left : a.asReal? = some u)
    (hi : u.units? = some i) (right : b.asReal? = some w) (hj : w.units? = some j) :
    a.viewOrder? b = some (compare i j) := by
  rw [viewOrder?, left, right]
  exact Binary64.compare?_of_units? hi hj

theorem agrees_of_viewOrder? {o : Ordering} (h : a.viewOrder? b = some o) :
    a.agrees b = (o == .eq) := by
  rw [viewOrder?] at h
  rw [agrees]
  cases left : a.asReal? with
  | none =>
    rw [left] at h
    cases h
  | some u =>
    cases right : b.asReal? with
    | none =>
      rw [left, right] at h
      cases h
    | some w =>
      rw [left, right] at h
      have order : u.compare? w = some o := h
      simp only [Binary64.equals, order, Option.some_beq_some]

theorem compare?_of_viewOrder? {o : Ordering} (h : a.viewOrder? b = some o) :
    a.compare? b = some o := by
  cases a with
  | integer n => exact h
  | real u => exact h
  | numeric d => exact h
  | _ => cases h

/-- Whether an order does not turn the order of two numbers around. -/
structure NotReversed (x y : ℚ) (o : Ordering) : Prop where
  lt : o = .lt → x < y
  eq : x = y → o = .eq
  gt : o = .gt → y < x

theorem notReversed_compare_nearest (x y : ℚ) :
    NotReversed x y (compare (nearest x) (nearest y)) := by
  constructor
  · intro less
    rw [compare_lt_iff_lt] at less
    apply lt_of_not_ge
    intro above
    exact absurd (Binary64.nearest_mono above) (not_le.2 less)
  · intro same
    rw [same, compare_eq_iff_eq]
  · intro greater
    rw [compare_gt_iff_gt] at greater
    apply lt_of_not_ge
    intro above
    exact absurd (Binary64.nearest_mono above) (not_le.2 greater)

theorem compare_nearest_of_ne (apart : x ≠ y → nearest x ≠ nearest y) :
    compare (nearest x) (nearest y) = compare x y := by
  have order := notReversed_compare_nearest x y
  rcases lt_trichotomy x y with less | same | greater
  · rw [compare_lt_iff_lt.2 less, compare_lt_iff_lt]
    exact lt_of_le_of_ne (Binary64.nearest_mono less.le) (apart less.ne)
  · rw [order.eq same, compare_eq_iff_eq.2 same]
  · rw [compare_gt_iff_gt.2 greater, compare_gt_iff_gt]
    exact lt_of_le_of_ne (Binary64.nearest_mono greater.le) (apart greater.ne').symm

theorem Denotes.exists_viewOrder? (hx : a.Denotes x) (hy : b.Denotes y) :
    ∃ o, a.viewOrder? b = some o := by
  obtain ⟨u, i, left, hi⟩ := hx.exists_units?
  obtain ⟨w, j, right, hj⟩ := hy.exists_units?
  exact ⟨_, viewOrder?_eq left hi right hj⟩

theorem Denotes.viewOrder?_eq (hx : a.Denotes x) (hy : b.Denotes y)
    (left : a.IsWhole ∨ a.IsShort) (right : b.IsWhole ∨ b.IsShort) :
    a.viewOrder? b = some (compare (nearest x) (nearest y)) := by
  obtain ⟨u, real, hi⟩ := hx.units? left
  obtain ⟨w, other, hj⟩ := hy.units? right
  exact Value.viewOrder?_eq real hi other hj

theorem ToldApart.viewOrder?_eq (apart : ToldApart a b) (hx : a.Denotes x) (hy : b.Denotes y) :
    a.viewOrder? b = some (compare x y) := by
  rw [hx.viewOrder?_eq hy apart.left apart.right, compare_nearest_of_ne (apart.nearest_ne hx hy)]

end Value

namespace BinaryOp

def ordering? : BinaryOp → Option (Ordering → Bool)
  | .eq => some (· == .eq)
  | .notEq => some (· != .eq)
  | .lt => some (· == .lt)
  | .ltEq => some (· != .gt)
  | .gt => some (· == .gt)
  | .gtEq => some (· != .lt)
  | _ => none

variable {op : BinaryOp} {verdict : Ordering → Bool} {a b : Value} {o : Ordering}

theorem apply_of_compare? (compares : op.ordering? = some verdict)
    (same : a.agrees b = (o == .eq)) (order : a.compare? b = some o) :
    op.apply a b = .ok (.boolean (verdict o)) := by
  cases op <;> cases compares <;> simp [apply, ordered, same, order, bne]

theorem eval_of_ordering? (compares : op.ordering? = some verdict) (functions : Registry)
    (source : Source) (l r : Expr) :
    (Expr.binary op l r).eval functions source = (do
      let a ← l.eval functions source
      let b ← r.eval functions source
      op.apply a.resolved b.resolved) := by
  apply Expr.eval_binary
  · rintro rfl
    cases compares
  · rintro rfl
    cases compares

end BinaryOp

namespace Expr

variable {functions : Registry} {source : Source} {l r : Expr} {a b : Value} {x y : ℚ}

theorem eval_binary_of_viewOrder? {o : Ordering} {op : BinaryOp} {verdict : Ordering → Bool}
    (left : l.eval functions source = .ok a) (right : r.eval functions source = .ok b)
    (order : a.resolved.viewOrder? b.resolved = some o) (compares : op.ordering? = some verdict) :
    (Expr.binary op l r).eval functions source = .ok (.boolean (verdict o)) := by
  rw [BinaryOp.eval_of_ordering? compares, left, right]
  exact BinaryOp.apply_of_compare? compares (Value.agrees_of_viewOrder? order)
    (Value.compare?_of_viewOrder? order)

theorem evalWithin_of_forall₂ {es : List Expr} {vs : List Value}
    (candidates : List.Forall₂ (fun e v => e.eval functions source = .ok v) es vs) (a : Value) :
    evalWithin functions source a es
      = .ok (.boolean (vs.any fun v => a.resolved.agrees v.resolved)) := by
  induction candidates with
  | nil => rfl
  | @cons e v es vs first _ ih =>
    rw [evalWithin, first]
    cases same : a.resolved.agrees v.resolved <;>
      simp [same, ih, bind, Except.bind, pure, Except.pure]

theorem eval_within {es : List Expr} {vs : List Value} (left : l.eval functions source = .ok a)
    (candidates : List.Forall₂ (fun e v => e.eval functions source = .ok v) es vs) :
    (Expr.within l es).eval functions source
      = .ok (.boolean (vs.any fun v => a.resolved.agrees v.resolved)) := by
  rw [eval, left]
  exact evalWithin_of_forall₂ candidates a

theorem any_agrees_eq {vs : List Value} {ys : List ℚ} (hx : a.Denotes x)
    (numbers : List.Forall₂ (fun v y => v.resolved.Denotes y) vs ys) :
    (vs.any fun v => a.agrees v.resolved)
      = vs.any fun v => a.viewOrder? v.resolved == some .eq := by
  induction numbers with
  | nil => rfl
  | cons first _ ih =>
    obtain ⟨o, order⟩ := hx.exists_viewOrder? first
    rw [List.any_cons, List.any_cons, ih, Value.agrees_of_viewOrder? order, order,
      Option.some_beq_some]

theorem any_viewOrder?_eq {vs : List Value} {ys : List ℚ} (hx : a.Denotes x)
    (numbers : List.Forall₂ (fun v y => v.resolved.Denotes y) vs ys)
    (apart : ∀ v ∈ vs, Value.ToldApart a v.resolved) :
    (vs.any fun v => a.viewOrder? v.resolved == some .eq) = decide (x ∈ ys) := by
  induction numbers with
  | nil => rfl
  | @cons v y vs ys first _ ih =>
    have order := (apart v List.mem_cons_self).viewOrder?_eq hx first
    have same : (compare x y == .eq) = decide (x = y) := by
      rw [Bool.eq_iff_iff, beq_iff_eq, decide_eq_true_eq, compare_eq_iff_eq]
    rw [List.any_cons, ih fun w found => apart w (List.mem_cons_of_mem v found), order,
      Option.some_beq_some, same, ← Bool.decide_or]
    simp only [List.mem_cons]

/-- Tests compare two numbers by their binary64 forms, whatever their kinds. That does not turn
around the exact order of whole numbers and short decimals, and is that order for pairs which
rounding keeps apart. -/
theorem eval_numbers {functions : Registry} {source : Source} {l : Expr} {a : Value} {x : ℚ}
    (left : l.eval functions source = .ok a) (hx : a.resolved.Denotes x) :
    (∀ {r : Expr} {b : Value} {y : ℚ}, r.eval functions source = .ok b → b.resolved.Denotes y →
      ∃ o, a.resolved.viewOrder? b.resolved = some o
        ∧ (∀ op verdict, BinaryOp.ordering? op = some verdict →
          (Expr.binary op l r).eval functions source = .ok (.boolean (verdict o)))
        ∧ (a.resolved.IsWhole ∨ a.resolved.IsShort → b.resolved.IsWhole ∨ b.resolved.IsShort →
          Value.NotReversed x y o)
        ∧ (Value.ToldApart a.resolved b.resolved → o = compare x y))
    ∧ ∀ {es : List Expr} {vs : List Value} {ys : List ℚ},
      List.Forall₂ (fun e v => e.eval functions source = .ok v) es vs →
      List.Forall₂ (fun v y => v.resolved.Denotes y) vs ys →
      (Expr.within l es).eval functions source
        = .ok (.boolean (vs.any fun v => a.resolved.viewOrder? v.resolved == some .eq))
      ∧ ((∀ v ∈ vs, Value.ToldApart a.resolved v.resolved) →
        (Expr.within l es).eval functions source = .ok (.boolean (decide (x ∈ ys)))) := by
  constructor
  · intro r b y right hy
    obtain ⟨o, order⟩ := hx.exists_viewOrder? hy
    refine ⟨o, order, ?_, ?_, ?_⟩
    · intro op verdict compares
      exact eval_binary_of_viewOrder? left right order compares
    · intro plain other
      rw [hx.viewOrder?_eq hy plain other] at order
      obtain rfl := Option.some.inj order
      exact Value.notReversed_compare_nearest x y
    · intro apart
      rw [apart.viewOrder?_eq hx hy] at order
      exact (Option.some.inj order).symm
  · intro es vs ys evaluated numbers
    have within := eval_within left evaluated
    rw [any_agrees_eq hx numbers] at within
    refine ⟨within, ?_⟩
    intro apart
    rw [within, any_viewOrder?_eq hx numbers apart]

theorem eval_numbers_half :
    let big : Value := .present (.integer 9007199254740993)
    let half : Value := .numeric ⟨false, 5, 1, by decide, by decide⟩
    let source : Source := fun name => .ok (some (if name = "big" then big else half))
    (Expr.param "big").eval .empty source = .ok big
    ∧ (Expr.param "half").eval .empty source = .ok half
    ∧ big.resolved.Denotes (9007199254740993 : ℤ)
    ∧ Value.ToldApart big.resolved half.resolved
    ∧ (Expr.binary .gt (.param "big") (.param "half")).eval .empty source = .ok (.boolean true)
    ∧ (Expr.within (.param "big") [.param "half"]).eval .empty source = .ok (.boolean false) := by
  intro big half source
  have left : (Expr.param "big").eval .empty source = .ok big := rfl
  have right : (Expr.param "half").eval .empty source = .ok half := rfl
  have number : big.resolved.Denotes (9007199254740993 : ℤ) := .integer (by decide)
  have apart : Value.ToldApart big.resolved half.resolved :=
    .shortRight (.inl trivial) ⟨by decide, by decide⟩
  have other : half.resolved.Denotes (Decimal.toRat ⟨false, 5, 1, by decide, by decide⟩) :=
    .numeric _
  obtain ⟨compared, within⟩ := eval_numbers left number
  have greater : Decimal.toRat ⟨false, 5, 1, by decide, by decide⟩ < (9007199254740993 : ℤ) := by
    rw [Decimal.toRat, Decimal.signed]
    norm_num
  obtain ⟨o, -, verdicts, -, exact⟩ := compared right other
  obtain ⟨-, member⟩ := within (.cons right .nil) (.cons other .nil)
  refine ⟨left, right, number, apart, ?_, ?_⟩
  · rw [verdicts .gt _ rfl, exact apart, compare_gt_iff_gt.2 greater]
    rfl
  · rw [member (by simpa using apart), decide_eq_false (by simpa using greater.ne')]

/-- The two integers differ, and yet their binary64 forms are one. -/
theorem eval_eq_of_neighbours :
    let source : Source := fun name =>
      .ok (some (.integer (if name = "a" then 9007199254740993 else 9007199254740992)))
    isInteger64 9007199254740993 = true ∧ isInteger64 9007199254740992 = true
    ∧ (Expr.param "a").eval .empty source = .ok (.integer 9007199254740993)
    ∧ (Expr.param "b").eval .empty source = .ok (.integer 9007199254740992)
    ∧ (Expr.binary .eq (.param "a") (.param "b")).eval .empty source = .ok (.boolean true)
    ∧ ((9007199254740993 : ℤ) : ℚ) ≠ (9007199254740992 : ℤ) := by
  intro source
  have left : (Expr.param "a").eval .empty source = .ok (.integer 9007199254740993) := rfl
  have right : (Expr.param "b").eval .empty source = .ok (.integer 9007199254740992) := rfl
  have order : (Value.integer 9007199254740993).viewOrder? (.integer 9007199254740992)
      = some .eq := by
    decide +kernel
  have compares : BinaryOp.ordering? .eq = some (· == .eq) := rfl
  exact ⟨by decide, by decide, left, right,
    eval_binary_of_viewOrder? left right order compares, by norm_num⟩

end Expr

end SqlTemplate
