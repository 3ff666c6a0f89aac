import SqlTemplate.Binary64.Arithmetic
import Mathlib.Algebra.Order.Field.Basic
import Mathlib.Data.Rat.Cast.Order
import Mathlib.Tactic.FieldSimp
import Mathlib.Tactic.Linarith
import Mathlib.Tactic.Ring

namespace SqlTemplate

theorem roundQuotient_le_half {n d : Nat} (pos : 0 < d) :
    2 * (roundQuotient n d * d) ≤ 2 * n + d := by
  have parts := Nat.div_add_mod' n d
  have small := Nat.mod_lt n pos
  rw [roundQuotient]
  generalize n / d = q at parts ⊢
  generalize n % d = r at parts small ⊢
  split
  · omega
  · split
    · rw [Nat.add_mul]
      omega
    · have : q % 2 * d ≤ 1 * d := Nat.mul_le_mul_right d (by omega)
      rw [Nat.add_mul]
      omega

theorem le_roundQuotient_half {n d : Nat} (pos : 0 < d) :
    2 * n ≤ 2 * (roundQuotient n d * d) + d := by
  have parts := Nat.div_add_mod' n d
  have small := Nat.mod_lt n pos
  rw [roundQuotient]
  generalize n / d = q at parts ⊢
  generalize n % d = r at parts small ⊢
  split
  · omega
  · split
    · rw [Nat.add_mul]
      omega
    · rw [Nat.add_mul]
      omega

theorem even_roundQuotient_of_tie {n d : Nat} (tie : 2 * (n % d) = d) :
    roundQuotient n d % 2 = 0 := by
  rw [roundQuotient, if_neg (by omega), if_neg (by omega)]
  omega

theorem tie_of_eq_half {n d : Nat} (pos : 0 < d)
    (h : 2 * (roundQuotient n d * d) = 2 * n + d ∨ 2 * n = 2 * (roundQuotient n d * d) + d) :
    2 * (n % d) = d := by
  have parts := Nat.div_add_mod' n d
  have small := Nat.mod_lt n pos
  rw [roundQuotient] at h
  generalize n / d = q at parts h ⊢
  generalize n % d = r at parts small h ⊢
  split at h
  · omega
  · split at h
    · rw [Nat.add_mul] at h
      omega
    · omega

theorem roundQuotient_mono {n d m e : Nat} (hd : 0 < d) (he : 0 < e) (h : n * e ≤ m * d) :
    roundQuotient n d ≤ roundQuotient m e := by
  apply Nat.le_of_not_lt
  intro above
  have upper : 2 * (roundQuotient n d * d) * e ≤ (2 * n + d) * e :=
    Nat.mul_le_mul_right e (roundQuotient_le_half hd)
  have lower : 2 * m * d ≤ (2 * (roundQuotient m e * e) + e) * d :=
    Nat.mul_le_mul_right d (le_roundQuotient_half he)
  have step : (roundQuotient m e + 1) * (d * e) ≤ roundQuotient n d * (d * e) :=
    Nat.mul_le_mul_right (d * e) above
  have first : 2 * (roundQuotient n d * d) = 2 * n + d := by
    apply Nat.eq_of_mul_eq_mul_right he
    linarith
  have second : 2 * m = 2 * (roundQuotient m e * e) + e := by
    apply Nat.eq_of_mul_eq_mul_right hd
    linarith
  have next : roundQuotient n d = roundQuotient m e + 1 := by
    apply Nat.eq_of_mul_eq_mul_right (Nat.mul_pos hd he)
    linarith
  have even := even_roundQuotient_of_tie (tie_of_eq_half hd (.inl first))
  have odd := even_roundQuotient_of_tie (tie_of_eq_half he (.inr second))
  omega

theorem roundQuotient_mul_mul {n d k : Nat} (pos : 0 < k) :
    roundQuotient (n * k) (d * k) = roundQuotient n d := by
  have below : 2 * (n % d * k) < d * k ↔ 2 * (n % d) < d := by
    rw [← Nat.mul_assoc, Nat.mul_lt_mul_right pos]
  have above : d * k < 2 * (n % d * k) ↔ d < 2 * (n % d) := by
    rw [← Nat.mul_assoc, Nat.mul_lt_mul_right pos]
  simp only [roundQuotient, Nat.mul_mod_mul_right, Nat.mul_div_mul_right n d pos, below, above]

theorem roundSignificant_mul_mul {n d k : Nat} (pos : 0 < k) :
    roundSignificant (n * k) (d * k) = roundSignificant n d := by
  have reorder : d * k * significantStep (n / d) = d * significantStep (n / d) * k := by
    rw [Nat.mul_assoc, Nat.mul_comm k, Nat.mul_assoc]
  rw [roundSignificant, Nat.mul_div_mul_right n d pos, reorder, roundQuotient_mul_mul pos,
    roundSignificant]

theorem roundSignificant_congr {n d m e : Nat} (hd : 0 < d) (he : 0 < e) (h : n * e = m * d) :
    roundSignificant n d = roundSignificant m e := by
  rw [← roundSignificant_mul_mul he, h, Nat.mul_comm d e, roundSignificant_mul_mul hd]

theorem roundQuotient_of_dvd {d t b : Nat} (wide : 0 < d * t) (fits : t ∣ b) :
    roundQuotient (b * d) (d * t) * t = b := by
  obtain ⟨k, rfl⟩ := fits
  have : t * k * d = k * (d * t) := by ring
  rw [this, roundQuotient_mul wide, Nat.mul_comm]

theorem roundSignificant_le {n d b : Nat} (pos : 0 < d) (fits : significantStep (n / d) ∣ b)
    (h : n ≤ b * d) : roundSignificant n d ≤ b := by
  have wide : 0 < d * significantStep (n / d) := Nat.mul_pos pos (significantStep_pos _)
  rw [roundSignificant, ← roundQuotient_of_dvd wide fits]
  apply Nat.mul_le_mul_right
  apply roundQuotient_mono wide wide
  exact Nat.mul_le_mul_right _ h

theorem le_roundSignificant {n d b : Nat} (pos : 0 < d) (fits : significantStep (n / d) ∣ b)
    (h : b * d ≤ n) : b ≤ roundSignificant n d := by
  have wide : 0 < d * significantStep (n / d) := Nat.mul_pos pos (significantStep_pos _)
  rw [roundSignificant, ← roundQuotient_of_dvd wide fits]
  apply Nat.mul_le_mul_right
  apply roundQuotient_mono wide wide
  exact Nat.mul_le_mul_right _ h

theorem div_le_div_of_mul_le {n d m e : Nat} (hd : 0 < d) (he : 0 < e) (h : n * e ≤ m * d) :
    n / d ≤ m / e := by
  rw [Nat.le_div_iff_mul_le he]
  apply Nat.le_of_mul_le_mul_right _ hd
  have : n / d * d * e ≤ n * e := Nat.mul_le_mul_right e (Nat.div_mul_le_self n d)
  linarith

theorem log2_mono {n m : Nat} (h : n ≤ m) : n.log2 ≤ m.log2 := by
  by_cases zero : n = 0
  · rw [zero, Nat.log2_zero]
    exact Nat.zero_le _
  · have nonzero : m ≠ 0 := by omega
    rw [Nat.le_log2 nonzero]
    exact Nat.le_trans (Nat.log2_self_le zero) h

theorem significantStep_dvd {n k : Nat} (h : n.log2 ≤ k) : significantStep n ∣ 2 ^ k :=
  Nat.pow_dvd_pow 2 (by omega)

theorem roundSignificant_mono {n d m e : Nat} (hd : 0 < d) (he : 0 < e) (h : n * e ≤ m * d) :
    roundSignificant n d ≤ roundSignificant m e := by
  have quotients := div_le_div_of_mul_le hd he h
  rcases Nat.eq_or_lt_of_le (log2_mono quotients) with same | smaller
  · have step : significantStep (n / d) = significantStep (m / e) := by
      rw [significantStep, same, significantStep]
    rw [roundSignificant, roundSignificant, step]
    apply Nat.mul_le_mul_right
    have pos := significantStep_pos (m / e)
    apply roundQuotient_mono (Nat.mul_pos hd pos) (Nat.mul_pos he pos)
    rw [← Nat.mul_assoc, ← Nat.mul_assoc]
    exact Nat.mul_le_mul_right _ h
  · have nonzero : m / e ≠ 0 := by
      intro zero
      rw [zero, Nat.log2_zero] at smaller
      omega
    have below : n / d < 2 ^ (m / e).log2 := by
      by_cases zero : n / d = 0
      · rw [zero]
        exact Nat.two_pow_pos _
      · exact (Nat.log2_lt zero).1 smaller
    have above : 2 ^ (m / e).log2 ≤ m / e := Nat.log2_self_le nonzero
    apply Nat.le_trans (m := 2 ^ (m / e).log2)
    · apply roundSignificant_le hd (significantStep_dvd smaller.le)
      exact Nat.le_of_lt ((Nat.div_lt_iff_lt_mul hd).1 below)
    · apply le_roundSignificant he (significantStep_dvd le_rfl)
      exact (Nat.le_div_iff_mul_le he).1 above

theorem roundSignificant_le_of_isSignificant {n d b : Nat} (pos : 0 < d) (fits : IsSignificant b)
    (h : n ≤ b * d) : roundSignificant n d ≤ b := by
  rw [← roundSignificant_one fits]
  apply roundSignificant_mono pos Nat.one_pos
  rwa [Nat.mul_one]

theorem le_roundSignificant_of_isSignificant {n d b : Nat} (pos : 0 < d) (fits : IsSignificant b)
    (h : b * d ≤ n) : b ≤ roundSignificant n d := by
  rw [← roundSignificant_one fits]
  apply roundSignificant_mono Nat.one_pos pos
  rwa [Nat.mul_one]

theorem isSignificant_two_pow (k : Nat) : IsSignificant (2 ^ k) := by
  rw [← Nat.one_mul (2 ^ k)]
  exact isSignificant_mul_pow (by decide)

theorem significantStep_mul_le {q : Nat} (h : 2 ^ 52 ≤ q) : significantStep q * 2 ^ 52 ≤ q := by
  have nonzero : q ≠ 0 := by omega
  have wide : 52 ≤ q.log2 := (Nat.le_log2 nonzero).2 h
  rw [significantStep, Nat.pow_eq, ← Nat.pow_add, Nat.sub_add_cancel wide]
  exact Nat.log2_self_le nonzero

theorem abs_roundSignificant_sub_le {n d : Nat} (pos : 0 < d) (h : 2 ^ 52 * d ≤ n) :
    |(roundSignificant n d : ℚ) - n / d| ≤ n / d / 2 ^ 53 := by
  have wide : 0 < d * significantStep (n / d) := Nat.mul_pos pos (significantStep_pos _)
  have upper : (2 * (roundQuotient n (d * significantStep (n / d)) * (d * significantStep (n / d)))
      : ℚ) ≤ 2 * n + d * significantStep (n / d) := by
    exact_mod_cast roundQuotient_le_half wide
  have lower : (2 * n : ℚ) ≤ 2 * (roundQuotient n (d * significantStep (n / d))
      * (d * significantStep (n / d))) + d * significantStep (n / d) := by
    exact_mod_cast le_roundQuotient_half wide
  have fine : significantStep (n / d) * 2 ^ 52 * d ≤ n := by
    rw [← Nat.le_div_iff_mul_le pos]
    exact significantStep_mul_le ((Nat.le_div_iff_mul_le pos).2 h)
  have fine : (significantStep (n / d) * 2 ^ 52 * d : ℚ) ≤ n := by exact_mod_cast fine
  have positive : (0 : ℚ) < d := by exact_mod_cast pos
  rw [roundSignificant]
  generalize significantStep (n / d) = t at *
  generalize roundQuotient n (d * t) = k at *
  push_cast
  rw [abs_le]
  constructor
  · rw [neg_le_sub_iff_le_add, div_le_iff₀ positive]
    field_simp
    linarith
  · rw [sub_le_iff_le_add, ← sub_le_iff_le_add']
    field_simp
    linarith

theorem isSignificant_mul_unitsPerOne {m : Nat} (h : m ≤ 2 ^ 53) :
    IsSignificant (m * unitsPerOne) := by
  unfold unitsPerOne
  apply isSignificant_mul_pow
  exact h

namespace Binary64

/-- The number nearest to a rational one, in units of 2⁻¹⁰⁷⁴. -/
def nearest (x : ℚ) : ℤ := x.num.sign * roundSignificant (x.num.natAbs * unitsPerOne) x.den

theorem nearest_div (z : ℤ) {d : ℕ} (pos : 0 < d) :
    nearest (z / d) = z.sign * roundSignificant (z.natAbs * unitsPerOne) d := by
  have cross : ((z : ℚ) / d).num * d = z * ((z : ℚ) / d).den := by
    have nonzero : (d : ℚ) ≠ 0 := by exact_mod_cast pos.ne'
    have den : (((z : ℚ) / d).den : ℚ) ≠ 0 := by exact_mod_cast ((z : ℚ) / d).den_nz
    have same := Rat.num_div_den ((z : ℚ) / d)
    rw [div_eq_div_iff den nonzero] at same
    exact_mod_cast same
  have signs : ((z : ℚ) / d).num.sign = z.sign := by
    have := congrArg Int.sign cross
    rwa [Int.sign_mul, Int.sign_mul, Int.sign_natCast_of_ne_zero pos.ne',
      Int.sign_natCast_of_ne_zero (Rat.den_nz _), mul_one, mul_one] at this
  have sizes : ((z : ℚ) / d).num.natAbs * d = z.natAbs * ((z : ℚ) / d).den := by
    have := congrArg Int.natAbs cross
    rwa [Int.natAbs_mul, Int.natAbs_mul, Int.natAbs_natCast, Int.natAbs_natCast] at this
  rw [nearest, signs, roundSignificant_congr (Rat.den_pos _) pos]
  rw [Nat.mul_right_comm, sizes, Nat.mul_right_comm]

theorem nearest_intCast (z : ℤ) :
    nearest z = z.sign * roundSignificant (z.natAbs * unitsPerOne) 1 := by
  rw [← nearest_div z Nat.one_pos, Nat.cast_one, div_one]

theorem nearest_neg (x : ℚ) : nearest (-x) = -nearest x := by
  rw [nearest, nearest, Rat.num_neg_eq_neg_num, Rat.den_neg_eq_den, Int.sign_neg,
    Int.natAbs_neg, Int.neg_mul]

@[simp] theorem nearest_zero : nearest 0 = 0 := by
  rw [nearest, Rat.num_zero, Int.sign_zero, Int.zero_mul]

theorem nearest_of_nonneg {x : ℚ} (h : 0 ≤ x) :
    nearest x = roundSignificant (x.num.natAbs * unitsPerOne) x.den := by
  rcases h.eq_or_lt with rfl | positive
  · rw [nearest_zero, Rat.num_zero, Int.natAbs_zero, Nat.zero_mul, Rat.den_zero,
      roundSignificant_one (Nat.dvd_zero _)]
    rfl
  · rw [nearest, Int.sign_eq_one_of_pos (Rat.num_pos.2 positive), Int.one_mul]

theorem nearest_nonneg {x : ℚ} (h : 0 ≤ x) : 0 ≤ nearest x := by
  rw [nearest_of_nonneg h]
  exact Int.natCast_nonneg _

theorem nearest_mono_of_nonneg {x y : ℚ} (positive : 0 ≤ x) (h : x ≤ y) :
    nearest x ≤ nearest y := by
  rw [nearest_of_nonneg positive, nearest_of_nonneg (positive.trans h), Int.ofNat_le]
  apply roundSignificant_mono (Rat.den_pos x) (Rat.den_pos y)
  have cross : x.num.natAbs * y.den ≤ y.num.natAbs * x.den := by
    have := (Rat.le_iff x y).1 h
    rw [← Int.natAbs_of_nonneg (Rat.num_nonneg.2 positive),
      ← Int.natAbs_of_nonneg (Rat.num_nonneg.2 (positive.trans h))] at this
    exact_mod_cast this
  rw [Nat.mul_right_comm, Nat.mul_right_comm y.num.natAbs]
  exact Nat.mul_le_mul_right unitsPerOne cross

theorem nearest_mono {x y : ℚ} (h : x ≤ y) : nearest x ≤ nearest y := by
  rcases le_total 0 x with positive | negative
  · exact nearest_mono_of_nonneg positive h
  · rcases le_total 0 y with above | below
    · have left := nearest_nonneg (neg_nonneg.2 negative)
      have right := nearest_nonneg above
      rw [nearest_neg] at left
      omega
    · have := nearest_mono_of_nonneg (neg_nonneg.2 below) (neg_le_neg h)
      rw [nearest_neg, nearest_neg] at this
      omega

theorem nearest_of_le {z : ℤ} (h : z.natAbs ≤ 2 ^ 53) : nearest z = z * unitsPerOne := by
  have exact : roundSignificant (z.natAbs * unitsPerOne) 1 = z.natAbs * unitsPerOne :=
    roundSignificant_one (isSignificant_mul_unitsPerOne h)
  rw [nearest_intCast, exact, Int.natCast_mul, ← Int.mul_assoc, Int.sign_mul_natAbs]

theorem abs_nearest_sub_le_of_pos {x : ℚ} (positive : 0 < x) (h : 2 ^ 52 ≤ x * unitsPerOne) :
    |(nearest x : ℚ) - x * unitsPerOne| ≤ x * unitsPerOne / 2 ^ 53 := by
  have den : (0 : ℚ) < x.den := by exact_mod_cast x.den_pos
  have num : ((x.num.natAbs : ℕ) : ℚ) = x * x.den := by
    rw [Rat.mul_den_eq_num, ← Int.cast_natCast, Int.natAbs_of_nonneg (Rat.num_nonneg.2 positive.le)]
  have ratio : ((x.num.natAbs * unitsPerOne : ℕ) : ℚ) / x.den = x * unitsPerOne := by
    rw [Nat.cast_mul, num, mul_right_comm, mul_div_cancel_right₀ _ den.ne']
  have wide : 2 ^ 52 * x.den ≤ x.num.natAbs * unitsPerOne := by
    have : (2 ^ 52 * x.den : ℚ) ≤ x.num.natAbs * unitsPerOne := by
      rw [num]
      nlinarith
    exact_mod_cast this
  have error := abs_roundSignificant_sub_le x.den_pos wide
  rw [ratio] at error
  rw [nearest_of_nonneg positive.le]
  exact_mod_cast error

theorem abs_nearest_sub_le {x : ℚ} (h : x = 0 ∨ 2 ^ 52 ≤ |x| * unitsPerOne) :
    |(nearest x : ℚ) - x * unitsPerOne| ≤ |x| * unitsPerOne / 2 ^ 53 := by
  rcases lt_trichotomy x 0 with negative | rfl | positive
  · have large := h.resolve_left negative.ne
    rw [abs_of_neg negative] at large ⊢
    have error := abs_nearest_sub_le_of_pos (neg_pos.2 negative) large
    rw [nearest_neg, Int.cast_neg, neg_mul, neg_sub_neg, abs_sub_comm] at error
    linarith
  · rw [nearest_zero, Int.cast_zero, zero_mul, sub_zero, abs_zero, zero_mul, zero_div]
  · have large := h.resolve_left positive.ne'
    rw [abs_of_pos positive] at large ⊢
    exact abs_nearest_sub_le_of_pos positive large

end Binary64

end SqlTemplate
