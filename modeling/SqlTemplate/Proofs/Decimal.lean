import SqlTemplate.Decimal
import SqlTemplate.Proofs.Nearest
import Mathlib.Tactic.NormNum

namespace SqlTemplate

theorem two_pow_mul_lt {k e f : Nat} (h : k + e < f) : 2 ^ k * Nat.pow 2 e < Nat.pow 2 f := by
  rw [Nat.pow_eq, Nat.pow_eq, ← Nat.pow_add]
  exact Nat.pow_lt_pow_right Nat.one_lt_two h

theorem isSignificant_mul_two_pow_mul {m : Nat} (h : m ≤ 2 ^ 53) (k e : Nat) :
    IsSignificant (m * 2 ^ k * Nat.pow 2 e) := by
  rw [Nat.pow_eq, Nat.mul_assoc, ← Nat.pow_add]
  exact isSignificant_mul_pow h

theorem isSignificant_mul_units {m : Nat} (h : m ≤ 2 ^ 53) (k : Nat) :
    IsSignificant (m * 2 ^ k * unitsPerOne) := by
  unfold unitsPerOne
  apply isSignificant_mul_two_pow_mul
  exact h

theorem isSignificant_two_pow_units (k : Nat) : IsSignificant (2 ^ k * unitsPerOne) := by
  rw [← Nat.one_mul (2 ^ k)]
  exact isSignificant_mul_units (by decide) k

theorem two_pow_le_unitsPerOne {k : Nat} (h : k ≤ 1074) : 2 ^ k ≤ unitsPerOne := by
  unfold unitsPerOne
  apply Nat.pow_le_pow_right Nat.two_pos
  exact h

theorem two_pow_units_lt {k : Nat} (within : k < 1024) : 2 ^ k * unitsPerOne < overflowUnits := by
  unfold unitsPerOne overflowUnits
  apply two_pow_mul_lt
  omega

theorem roundSignificant_le_units {n d k : Nat} (pos : 0 < d)
    (small : n ≤ 2 ^ k * unitsPerOne * d) : roundSignificant n d ≤ 2 ^ k * unitsPerOne := by
  exact roundSignificant_le_of_isSignificant pos (isSignificant_two_pow_units k) small

namespace Binary64

def HasUnits (x : Binary64) (negative : Bool) (n : Nat) : Prop :=
  ∃ m : Magnitude, x = .finite negative m ∧ m.units = n

variable {x y : Binary64} {s : Bool} {a b n d k : Nat}

theorem hasUnits_ofUnits (s : Bool) (pos : 0 < d) (small : n ≤ 2 ^ k * unitsPerOne * d)
    (within : k < 1024) : (ofUnits s n d).HasUnits s (roundSignificant n d) := by
  have bounded : roundSignificant n d < overflowUnits :=
    Nat.lt_of_le_of_lt (roundSignificant_le_units pos small) (two_pow_units_lt within)
  rw [ofUnits, dif_pos bounded]
  exact ⟨_, rfl, rfl⟩

theorem hasUnits_ofRatio (s : Bool) (pos : 0 < d) (small : n ≤ 2 ^ k * d) (within : k < 1024) :
    (ofRatio s n d).HasUnits s (roundSignificant (n * unitsPerOne) d) := by
  apply hasUnits_ofUnits s pos _ within
  rw [Nat.mul_right_comm]
  exact Nat.mul_le_mul_right unitsPerOne small

theorem HasUnits.isZero (h : x.HasUnits s n) : x.isZero = (n == 0) := by
  obtain ⟨m, rfl, rfl⟩ := h
  rfl

theorem HasUnits.neg (h : x.HasUnits s n) : x.neg.HasUnits (!s) n := by
  obtain ⟨m, rfl, rfl⟩ := h
  exact ⟨m, rfl, rfl⟩

theorem HasUnits.add (left : x.HasUnits false a) (right : y.HasUnits false b)
    (small : a + b ≤ 2 ^ k * unitsPerOne) (within : k < 1024) :
    (x.add y).HasUnits false (roundSignificant (a + b) 1) := by
  obtain ⟨m, rfl, rfl⟩ := left
  obtain ⟨n, rfl, rfl⟩ := right
  have sum : scaled false m + scaled false n = ((m.units + n.units : Nat) : Int) := rfl
  have sign : (if ((m.units + n.units : Nat) : Int) = 0 then false && false
      else decide (((m.units + n.units : Nat) : Int) < 0)) = false := by
    split
    · rfl
    · exact decide_eq_false (by omega)
  rw [Binary64.add, sum, sign, Int.natAbs_natCast]
  apply hasUnits_ofUnits false Nat.one_pos _ within
  rwa [Nat.mul_one]

theorem HasUnits.mul (left : x.HasUnits false a) (right : y.HasUnits false b)
    (small : a * b ≤ 2 ^ k * unitsPerOne * unitsPerOne) (within : k < 1024) :
    (x.mul y).HasUnits false (roundSignificant (a * b) unitsPerOne) := by
  obtain ⟨m, rfl, rfl⟩ := left
  obtain ⟨n, rfl, rfl⟩ := right
  exact hasUnits_ofUnits false unitsPerOne_pos small within

theorem HasUnits.div (left : x.HasUnits false a) (right : y.HasUnits false b) (pos : 0 < b)
    (small : a ≤ 2 ^ k * b) (within : k < 1024) :
    (x.div y).HasUnits false (roundSignificant (a * unitsPerOne) b) := by
  obtain ⟨m, rfl, rfl⟩ := left
  obtain ⟨n, rfl, rfl⟩ := right
  rw [Binary64.div, if_neg pos.ne']
  exact hasUnits_ofRatio false pos small within

theorem HasUnits.round (h : x.HasUnits false a)
    (small : (2 * a + unitsPerOne) / (2 * unitsPerOne) ≤ 2 ^ k) (within : k < 1024) :
    x.round.HasUnits false
      (roundSignificant ((2 * a + unitsPerOne) / (2 * unitsPerOne) * unitsPerOne) 1) := by
  obtain ⟨m, rfl, rfl⟩ := h
  apply hasUnits_ofRatio false Nat.one_pos _ within
  rwa [Nat.mul_one]

def units? : Binary64 → Option Int
  | .finite s m => some (scaled s m)
  | _ => none

theorem compare?_of_units? {i j : Int} (left : x.units? = some i) (right : y.units? = some j) :
    x.compare? y = some (compare i j) := by
  cases x with
  | nan => exact absurd left nofun
  | infinite s => exact absurd left nofun
  | finite s m =>
    cases y with
    | nan => exact absurd right nofun
    | infinite t => exact absurd right nofun
    | finite t n =>
      obtain rfl : scaled s m = i := Option.some.inj left
      obtain rfl : scaled t n = j := Option.some.inj right
      rw [compare?]

theorem HasUnits.units? (h : x.HasUnits s n) :
    x.units? = some (if s then -(n : Int) else n) := by
  obtain ⟨m, rfl, rfl⟩ := h
  rfl

theorem nearest_natCast_div (n : Nat) (pos : 0 < d) :
    nearest ((n : ℚ) / d) = roundSignificant (n * unitsPerOne) d := by
  have spread := nearest_div n pos
  rw [Int.cast_natCast, Int.natAbs_natCast] at spread
  rcases Nat.eq_zero_or_pos n with rfl | positive
  · rw [Nat.cast_zero, zero_div, nearest_zero, Nat.zero_mul]
    have := roundSignificant_le_of_isSignificant (n := 0) pos (Nat.dvd_zero _) (Nat.zero_le _)
    omega
  · rw [spread, Int.sign_eq_one_of_pos (by omega), Int.one_mul]

theorem units?_signed {x : Binary64} (h : x.HasUnits s (roundSignificant (n * unitsPerOne) d))
    (pos : 0 < d) :
    x.units? = some (nearest (((if s then -(n : Int) else n) : Int) / d)) := by
  rw [h.units?, ← nearest_natCast_div n pos]
  cases s with
  | false => rfl
  | true => simp [neg_div, nearest_neg]

theorem units?_ofInt {z : Int} (small : z.natAbs ≤ 2 ^ 96) :
    (ofInt z).units? = some (nearest z) := by
  have units := hasUnits_ofRatio (k := 96) (n := z.natAbs) (z < 0) Nat.one_pos (by omega)
    (by decide)
  have signed : (if decide (z < 0) then -(z.natAbs : Int) else z.natAbs) = z := by
    simp only [decide_eq_true_eq]
    split <;> omega
  have := units?_signed units Nat.one_pos
  rw [signed, Nat.cast_one, div_one] at this
  exact this

end Binary64

namespace Decimal

open Binary64 (HasUnits hasUnits_ofRatio)

variable {d : Decimal}

def magnitudeUnits (d : Decimal) : Nat :=
  let power := Nat.pow 10 d.scale
  let whole := roundSignificant (d.mantissa / power * unitsPerOne) 1
  let scaleUp := roundSignificant (power * unitsPerOne) 1
  let rest := roundSignificant (d.mantissa % power * unitsPerOne) 1
  let fraction := roundSignificant (rest * unitsPerOne) scaleUp
  let product := roundSignificant (roundSignificant (whole + fraction) 1 * scaleUp) unitsPerOne
  let digits := (2 * product + unitsPerOne) / (2 * unitsPerOne)
  if fraction = 0 then whole
  else roundSignificant (roundSignificant (digits * unitsPerOne) 1 * unitsPerOne) scaleUp

theorem power_pos (d : Decimal) : 0 < Nat.pow 10 d.scale := Nat.pow_pos (by decide)

theorem power_le (d : Decimal) : Nat.pow 10 d.scale ≤ 2 ^ 94 := by
  apply Nat.le_trans (Nat.pow_le_pow_right (by decide) d.scale_le)
  decide

theorem roundSignificant_units_le {n k : Nat} (small : n ≤ 2 ^ k) :
    roundSignificant (n * unitsPerOne) 1 ≤ 2 ^ k * unitsPerOne := by
  apply roundSignificant_le_units Nat.one_pos
  rw [Nat.mul_one]
  exact Nat.mul_le_mul_right unitsPerOne small

theorem le_roundSignificant_units {n : Nat} (pos : 0 < n) :
    unitsPerOne ≤ roundSignificant (n * unitsPerOne) 1 := by
  have one : IsSignificant unitsPerOne := by
    rw [← Nat.one_mul unitsPerOne]
    exact isSignificant_mul_unitsPerOne (by decide)
  apply le_roundSignificant_of_isSignificant Nat.one_pos one
  rw [Nat.mul_one]
  exact Nat.le_mul_of_pos_left unitsPerOne pos

theorem hasUnits_digits {sum scaleUp : Binary64} {a c : Nat} (hs : sum.HasUnits false a)
    (hc : scaleUp.HasUnits false c) (sumLe : a ≤ 2 ^ 97 * unitsPerOne)
    (scaleUpLe : c ≤ 2 ^ 94 * unitsPerOne) (leScaleUp : unitsPerOne ≤ c) :
    ((sum.mul scaleUp).round.div scaleUp).HasUnits false
      (roundSignificant (roundSignificant ((2 * roundSignificant (a * c) unitsPerOne + unitsPerOne)
        / (2 * unitsPerOne) * unitsPerOne) 1 * unitsPerOne) c) := by
  have bound : a * c ≤ 2 ^ 191 * unitsPerOne * unitsPerOne := by
    calc a * c
      _ ≤ 2 ^ 97 * unitsPerOne * (2 ^ 94 * unitsPerOne) := Nat.mul_le_mul sumLe scaleUpLe
      _ = 2 ^ 191 * unitsPerOne * unitsPerOne := by ring
  have product := hs.mul (k := 191) hc bound (by decide)
  have productLe := roundSignificant_le_units unitsPerOne_pos bound
  generalize roundSignificant (a * c) unitsPerOne = q at *
  have digitsLe : (2 * q + unitsPerOne) / (2 * unitsPerOne) ≤ 2 ^ 192 := by
    apply Nat.div_le_of_le_mul
    omega
  have digits := product.round (k := 192) digitsLe (by decide)
  have roundedLe := roundSignificant_units_le digitsLe
  have unit := unitsPerOne_pos
  exact digits.div (k := 192) hc (by omega) (by omega) (by decide)

theorem hasUnits_magnitude (d : Decimal) : d.magnitude.HasUnits false d.magnitudeUnits := by
  have mantissa : d.mantissa ≤ 2 ^ 96 := Nat.le_of_lt d.mantissa_lt
  have power := d.power_pos
  have small := d.power_le
  have unit := unitsPerOne_pos
  simp only [magnitude, magnitudeUnits]
  generalize Nat.pow 10 d.scale = p at *
  have w : d.mantissa / p ≤ 2 ^ 96 := Nat.le_trans (Nat.div_le_self _ _) mantissa
  have r : d.mantissa % p ≤ p := Nat.le_of_lt (Nat.mod_lt _ power)
  have whole := hasUnits_ofRatio (k := 96) (n := d.mantissa / p) false Nat.one_pos (by omega)
    (by decide)
  have scaleUp := hasUnits_ofRatio (k := 94) (n := p) false Nat.one_pos (by omega) (by decide)
  have rest := hasUnits_ofRatio (k := 94) (n := d.mantissa % p) false Nat.one_pos (by omega)
    (by decide)
  have wholeLe := roundSignificant_units_le w
  have scaleUpLe := roundSignificant_units_le small
  have leScaleUp := le_roundSignificant_units power
  have restLe : roundSignificant (d.mantissa % p * unitsPerOne) 1
      ≤ roundSignificant (p * unitsPerOne) 1 := by
    apply roundSignificant_mono Nat.one_pos Nat.one_pos
    apply Nat.mul_le_mul_right
    exact Nat.mul_le_mul_right unitsPerOne r
  generalize roundSignificant (d.mantissa / p * unitsPerOne) 1 = a at *
  generalize roundSignificant (p * unitsPerOne) 1 = c at *
  generalize roundSignificant (d.mantissa % p * unitsPerOne) 1 = b at *
  have positive : 0 < c := by omega
  have fraction := rest.div (k := 0) scaleUp positive (by omega) (by decide)
  have fractionLe : roundSignificant (b * unitsPerOne) c ≤ 2 ^ 0 * unitsPerOne := by
    apply roundSignificant_le_units positive
    rw [Nat.pow_zero, Nat.one_mul, Nat.mul_comm unitsPerOne]
    exact Nat.mul_le_mul_right unitsPerOne restLe
  rw [fraction.isZero]
  generalize roundSignificant (b * unitsPerOne) c = f at *
  by_cases zero : f = 0
  · simpa [zero] using whole
  · have sum := whole.add (k := 97) fraction (by omega) (by decide)
    have sumLe := roundSignificant_le_units (k := 97) (n := a + f) Nat.one_pos (by omega)
    simpa [zero] using hasUnits_digits sum scaleUp sumLe scaleUpLe leScaleUp

theorem abs_product_sub_le {x y f s q p : ℚ} (hx : 0 ≤ x) (hy : 0 ≤ y) (hp : 0 ≤ p)
    (fraction : |f - y| ≤ y / 2 ^ 53) (sum : |s - (x + f)| ≤ (x + f) / 2 ^ 53)
    (product : |q - s * p| ≤ s * p / 2 ^ 53) :
    |q - (x + y) * p| ≤ (x + y) * p / 2 ^ 51 := by
  rw [abs_le] at fraction sum product ⊢
  have upper : s ≤ (x + y) * (1 + 1 / 2 ^ 53) ^ 2 := by linarith
  have lower : (x + y) * (1 - 1 / 2 ^ 53) ^ 2 ≤ s := by linarith
  have upper := mul_le_mul_of_nonneg_right upper hp
  have lower := mul_le_mul_of_nonneg_right lower hp
  have total : 0 ≤ (x + y) * p := mul_nonneg (add_nonneg hx hy) hp
  constructor
  · linarith
  · linarith

def IsShort (d : Decimal) : Prop := d.mantissa < 10 ^ 15 ∧ d.scale ≤ 22

instance (d : Decimal) : Decidable d.IsShort := inferInstanceAs (Decidable (_ ∧ _))

theorem roundSignificant_power {s : Nat} (h : s ≤ 22) :
    roundSignificant (Nat.pow 10 s * unitsPerOne) 1 = Nat.pow 10 s * unitsPerOne := by
  apply roundSignificant_one
  have : Nat.pow 10 s = 5 ^ s * 2 ^ s := Nat.mul_pow 5 2 s
  rw [this]
  apply isSignificant_mul_units
  exact Nat.le_trans (Nat.pow_le_pow_right (by decide) h) (by decide)

theorem div_eq_of_abs_sub_lt {n m u : Nat} (h : |(n : ℚ) - m * u| < u / 2) :
    (2 * n + u) / (2 * u) = m := by
  obtain ⟨lower, upper⟩ := abs_lt.1 h
  have lower : (2 * m * u : ℚ) < 2 * n + u := by linarith
  have upper : (2 * n : ℚ) < 2 * m * u + u := by linarith
  have lower : 2 * m * u < 2 * n + u := by exact_mod_cast lower
  have upper : 2 * n < 2 * m * u + u := by exact_mod_cast upper
  apply Nat.div_eq_of_lt_le
  · linarith
  · rw [Nat.add_mul]
    linarith

theorem fraction_wide (h : d.IsShort) (rest : 0 < d.mantissa % Nat.pow 10 d.scale) :
    2 ^ 52 * Nat.pow 10 d.scale ≤ d.mantissa % Nat.pow 10 d.scale * unitsPerOne := by
  have small : Nat.pow 10 d.scale ≤ 2 ^ 74 :=
    Nat.le_trans (Nat.pow_le_pow_right (by decide) h.2) (by decide)
  have large : 2 ^ 126 ≤ unitsPerOne := two_pow_le_unitsPerOne (by decide)
  calc 2 ^ 52 * Nat.pow 10 d.scale
    _ ≤ 2 ^ 126 := by omega
    _ ≤ unitsPerOne := large
    _ ≤ d.mantissa % Nat.pow 10 d.scale * unitsPerOne := Nat.le_mul_of_pos_left unitsPerOne rest

theorem abs_product_sub_mantissa_le (h : d.IsShort)
    (rest : 0 < d.mantissa % Nat.pow 10 d.scale) :
    |(roundSignificant (roundSignificant (d.mantissa / Nat.pow 10 d.scale * unitsPerOne
        + roundSignificant (d.mantissa % Nat.pow 10 d.scale * unitsPerOne) (Nat.pow 10 d.scale)) 1
        * Nat.pow 10 d.scale) 1 : ℚ) - d.mantissa * unitsPerOne|
      ≤ d.mantissa * unitsPerOne / 2 ^ 51 := by
  have parts := Nat.div_add_mod' d.mantissa (Nat.pow 10 d.scale)
  have power := d.power_pos
  have fractionWide := fraction_wide h rest
  generalize unitsPerOne = u at *
  generalize Nat.pow 10 d.scale = p at *
  generalize d.mantissa % p = r at *
  generalize d.mantissa / p = w at *
  have significant := isSignificant_two_pow 52
  have fractionError := abs_roundSignificant_sub_le power fractionWide
  have fractionLarge := le_roundSignificant_of_isSignificant power significant fractionWide
  generalize roundSignificant (r * u) p = f at *
  have sumWide : 2 ^ 52 * 1 ≤ w * u + f := by omega
  have sumError := abs_roundSignificant_sub_le Nat.one_pos sumWide
  have sumLarge := le_roundSignificant_of_isSignificant Nat.one_pos significant sumWide
  generalize roundSignificant (w * u + f) 1 = s at *
  have productWide : 2 ^ 52 * 1 ≤ s * p := Nat.mul_le_mul sumLarge power
  have productError := abs_roundSignificant_sub_le Nat.one_pos productWide
  push_cast at fractionError sumError productError
  rw [div_one] at sumError productError
  have power : (0 : ℚ) < p := by exact_mod_cast power
  have error := abs_product_sub_le (by positivity) (by positivity) power.le fractionError
    sumError productError
  have total : (w * u + r * u / p : ℚ) * p = d.mantissa * u := by
    rw [← parts]
    push_cast
    field_simp
  rwa [total] at error

theorem digits_of_isShort (h : d.IsShort) (rest : 0 < d.mantissa % Nat.pow 10 d.scale) :
    (2 * roundSignificant (roundSignificant (d.mantissa / Nat.pow 10 d.scale * unitsPerOne
        + roundSignificant (d.mantissa % Nat.pow 10 d.scale * unitsPerOne) (Nat.pow 10 d.scale)) 1
        * Nat.pow 10 d.scale) 1 + unitsPerOne) / (2 * unitsPerOne) = d.mantissa := by
  apply div_eq_of_abs_sub_lt
  apply lt_of_le_of_lt (abs_product_sub_mantissa_le h rest)
  have few : (d.mantissa : ℚ) < 10 ^ 15 := by exact_mod_cast h.1
  have unit : (0 : ℚ) < unitsPerOne := by exact_mod_cast unitsPerOne_pos
  have := mul_lt_mul_of_pos_right few unit
  linarith

theorem magnitudeUnits_of_isShort (h : d.IsShort) :
    d.magnitudeUnits = roundSignificant (d.mantissa * unitsPerOne) (Nat.pow 10 d.scale) := by
  have parts := Nat.div_add_mod' d.mantissa (Nat.pow 10 d.scale)
  have power := d.power_pos
  have mantissa : d.mantissa ≤ 2 ^ 53 := Nat.le_trans (Nat.le_of_lt h.1) (by decide)
  have whole : roundSignificant (d.mantissa / Nat.pow 10 d.scale * unitsPerOne) 1
      = d.mantissa / Nat.pow 10 d.scale * unitsPerOne := by
    apply roundSignificant_one
    apply isSignificant_mul_unitsPerOne
    exact Nat.le_trans (Nat.div_le_self _ _) mantissa
  have rest : roundSignificant (d.mantissa % Nat.pow 10 d.scale * unitsPerOne) 1
      = d.mantissa % Nat.pow 10 d.scale * unitsPerOne := by
    apply roundSignificant_one
    apply isSignificant_mul_unitsPerOne
    exact Nat.le_trans (Nat.mod_le _ _) mantissa
  have scaled (s : Nat) : roundSignificant (s * (Nat.pow 10 d.scale * unitsPerOne)) unitsPerOne
      = roundSignificant (s * Nat.pow 10 d.scale) 1 := by
    apply roundSignificant_congr unitsPerOne_pos Nat.one_pos
    rw [Nat.mul_one, Nat.mul_assoc]
  simp only [magnitudeUnits, whole, rest, roundSignificant_power h.2, scaled,
    roundSignificant_mul_mul unitsPerOne_pos]
  rcases Nat.eq_zero_or_pos (d.mantissa % Nat.pow 10 d.scale) with none | some
  · have zero : roundSignificant (0 * unitsPerOne) (Nat.pow 10 d.scale) = 0 := by
      rw [Nat.zero_mul]
      exact Nat.le_zero.1 (roundSignificant_le_of_isSignificant power (Nat.dvd_zero _) (by omega))
    rw [none, if_pos zero, ← whole]
    apply roundSignificant_congr Nat.one_pos power
    rw [none, Nat.add_zero] at parts
    rw [Nat.mul_right_comm, parts, Nat.mul_one]
  · have nonzero : roundSignificant (d.mantissa % Nat.pow 10 d.scale * unitsPerOne)
        (Nat.pow 10 d.scale) ≠ 0 := by
      have := le_roundSignificant_of_isSignificant power (isSignificant_two_pow 52)
        (fraction_wide h some)
      omega
    have exact := roundSignificant_one (isSignificant_mul_unitsPerOne mantissa)
    rw [if_neg nonzero, digits_of_isShort h some, exact]

def toRat (d : Decimal) : ℚ := d.signed / (Nat.pow 10 d.scale : Nat)

theorem natAbs_signed (d : Decimal) : d.signed.natAbs = d.mantissa := by
  rw [signed]
  split
  · rw [Int.natAbs_neg, Int.natAbs_natCast]
  · rw [Int.natAbs_natCast]

theorem toRat_of_scale_eq_zero (whole : d.scale = 0) : d.toRat = d.signed := by
  rw [toRat, whole]
  simp

theorem hasUnits_toBinary64 (places : d.scale ≠ 0) :
    d.toBinary64.HasUnits d.negative d.magnitudeUnits := by
  have magnitude := d.hasUnits_magnitude
  rw [toBinary64, if_neg places]
  cases h : d.negative with
  | false =>
    rw [if_neg Bool.false_ne_true]
    exact magnitude
  | true =>
    rw [if_pos rfl]
    exact magnitude.neg

theorem units?_toBinary64_of_scale_eq_zero (whole : d.scale = 0) :
    d.toBinary64.units? = some (Binary64.nearest d.toRat) := by
  have small : d.signed.natAbs ≤ 2 ^ 96 := by
    rw [natAbs_signed]
    exact Nat.le_of_lt d.mantissa_lt
  rw [toBinary64, if_pos whole, toRat_of_scale_eq_zero whole]
  exact Binary64.units?_ofInt small

theorem units?_toBinary64_of_isShort (h : d.IsShort) :
    d.toBinary64.units? = some (Binary64.nearest d.toRat) := by
  by_cases whole : d.scale = 0
  · exact units?_toBinary64_of_scale_eq_zero whole
  · have units := hasUnits_toBinary64 whole
    rw [magnitudeUnits_of_isShort h] at units
    have view := Binary64.units?_signed units d.power_pos
    rw [toRat, signed]
    exact view

theorem exists_units?_toBinary64 (d : Decimal) : ∃ z, d.toBinary64.units? = some z := by
  by_cases whole : d.scale = 0
  · exact ⟨_, units?_toBinary64_of_scale_eq_zero whole⟩
  · exact ⟨_, (hasUnits_toBinary64 whole).units?⟩

end Decimal

end SqlTemplate
