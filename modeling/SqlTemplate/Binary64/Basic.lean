import SqlTemplate.Binary64.Rounding

/-!
The binary64 numbers of IEEE 754. A finite number is a sign and a whole number of units
2⁻¹⁰⁷⁴, so its value is exact and order, equality and arithmetic are those of the integers,
followed by one rounding.
-/

namespace SqlTemplate

theorem two_pow_pos (e : Nat) : 0 < Nat.pow 2 e := Nat.two_pow_pos e

def unitsPerOne : Nat := Nat.pow 2 1074

theorem unitsPerOne_pos : 0 < unitsPerOne := by
  unfold unitsPerOne
  apply two_pow_pos

def overflowUnits : Nat := Nat.pow 2 2098

/-- The size of a finite number, in units of 2⁻¹⁰⁷⁴. -/
structure Binary64.Magnitude where
  units : Nat
  significant : IsSignificant units
  bounded : units < overflowUnits
  deriving DecidableEq

/-- Zero has a sign; the payload of a NaN is not kept. -/
inductive Binary64 : Type
  | nan : Binary64
  | infinite : (negative : Bool) → Binary64
  | finite : (negative : Bool) → Binary64.Magnitude → Binary64
  deriving DecidableEq

namespace Binary64

/-- `n / d` units, rounded to the nearest number; past the largest one lies infinity. -/
def ofUnits (negative : Bool) (n d : Nat) : Binary64 :=
  if bounded : roundSignificant n d < overflowUnits then
    .finite negative ⟨roundSignificant n d, isSignificant_roundSignificant n d, bounded⟩
  else .infinite negative

def ofRatio (negative : Bool) (n d : Nat) : Binary64 :=
  ofUnits negative (n * unitsPerOne) d

def ofInt (n : Int) : Binary64 := ofRatio (n < 0) n.natAbs 1

theorem overflowUnits_pos : 0 < overflowUnits := by
  unfold overflowUnits
  apply two_pow_pos

def zero (negative : Bool) : Binary64 :=
  .finite negative ⟨0, Nat.dvd_zero _, overflowUnits_pos⟩

instance : Inhabited Binary64 := ⟨zero false⟩

def scaled (negative : Bool) (m : Magnitude) : Int :=
  if negative then -(m.units : Int) else m.units

def isFinite : Binary64 → Bool
  | .finite _ _ => true
  | _ => false

def isZero : Binary64 → Bool
  | .finite _ m => m.units == 0
  | _ => false

def compare? : Binary64 → Binary64 → Option Ordering
  | .nan, _ => none
  | _, .nan => none
  | .infinite s, .infinite t => some (compare t s)
  | .infinite s, .finite _ _ => some (if s then .lt else .gt)
  | .finite _ _, .infinite t => some (if t then .gt else .lt)
  | .finite s m, .finite t n => some (compare (scaled s m) (scaled t n))

def equals (x y : Binary64) : Bool := x.compare? y == some .eq

def isNegative (x : Binary64) : Bool := x.compare? (zero false) == some .lt

end Binary64
end SqlTemplate
