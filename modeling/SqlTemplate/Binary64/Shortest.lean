import SqlTemplate.Binary64.Basic

namespace SqlTemplate.Binary64

structure Scientific where
  digits : Nat
  exponent : Int
  deriving DecidableEq, Inhabited

namespace Magnitude

def quarterLow (m : Magnitude) : Nat :=
  let step := significantStep m.units
  if m.units = Nat.pow 2 m.units.log2 ∧ 1 < step then 4 * m.units - step else 4 * m.units - 2 * step

def quarterHigh (m : Magnitude) : Nat := 4 * m.units + 2 * significantStep m.units

def roundsHere (m : Magnitude) (quarters scale : Nat) : Bool :=
  if m.units / significantStep m.units % 2 = 0 then
    m.quarterLow * scale ≤ quarters ∧ quarters ≤ m.quarterHigh * scale
  else m.quarterLow * scale < quarters ∧ quarters < m.quarterHigh * scale

def gridPoint? (tiesUp : Bool) (m : Magnitude) (k : Int) : Option Nat :=
  let scale := Nat.pow 10 (-k).toNat
  let spacing := Nat.pow 10 k.toNat * (4 * unitsPerOne)
  let value := 4 * m.units * scale
  let below := value / spacing
  let above := below + 1
  let rest := value % spacing
  match m.roundsHere (below * spacing) scale, m.roundsHere (above * spacing) scale with
  | false, false => none
  | true, false => some below
  | false, true => some above
  | true, true =>
    if 2 * rest < spacing then some below
    else if spacing < 2 * rest then some above
    else if tiesUp ∨ below % 2 = 1 then some above
    else some below

def coarsestExponent (m : Magnitude) : Int :=
  Int.fdiv (((m.units.log2 : Int) - 1074) * 30103) 100000 + 1

/-- The shortest decimal that reads back as the magnitude. Seventeen digits always suffice,
so the search ends within the grids that are tried. -/
def shortest (tiesUp : Bool) (m : Magnitude) : Scientific :=
  if m.units = 0 then ⟨0, 0⟩
  else
    let start := m.coarsestExponent
    ((List.range 24).findSome? fun (i : Nat) =>
      (m.gridPoint? tiesUp (start - i)).map fun c => Scientific.mk c (start - i)).getD ⟨0, 0⟩

end Magnitude
end SqlTemplate.Binary64
