import SqlTemplate.Binary64.Arithmetic
import SqlTemplate.Text.Digits

namespace SqlTemplate

def mantissaLimit : Nat := Nat.pow 2 96

/-- `± mantissa · 10 ^ -scale`. A zero keeps its sign and its places. -/
structure Decimal where
  negative : Bool
  mantissa : Nat
  scale : Nat
  mantissa_lt : mantissa < mantissaLimit
  scale_le : scale ≤ 28
  deriving DecidableEq

namespace Decimal

def ofParts? (negative : Bool) (mantissa scale : Nat) : Option Decimal :=
  if h : mantissa < mantissaLimit ∧ scale ≤ 28 then some ⟨negative, mantissa, scale, h.1, h.2⟩
  else none

instance : Inhabited Decimal := ⟨⟨false, 0, 0, by decide, by decide⟩⟩

def signed (d : Decimal) : Int := if d.negative then -(d.mantissa : Int) else d.mantissa

def neg (d : Decimal) : Decimal := { d with negative := !d.negative }

@[simp] theorem ofParts?_self (d : Decimal) : ofParts? d.negative d.mantissa d.scale = some d := by
  simp [ofParts?, d.mantissa_lt, d.scale_le]

@[simp] theorem neg_neg (d : Decimal) : d.neg.neg = d := by simp [neg]

@[simp] theorem signed_neg (d : Decimal) : d.neg.signed = -d.signed := by
  cases h : d.negative <;> simp [signed, neg, h]

def equals (d e : Decimal) : Bool :=
  d.signed * Nat.pow 10 e.scale == e.signed * Nat.pow 10 d.scale

def toText (d : Decimal) : String :=
  Text.minus d.negative ++ String.ofList (Text.withPlaces d.scale d.mantissa)

/-- The magnitude in binary64: the whole part and the fraction are rounded, then added, and the
sum is brought back to the nearest one that has as many places as the decimal. -/
def magnitude (d : Decimal) : Binary64 :=
  let power := Nat.pow 10 d.scale
  let whole := Binary64.ofRatio false (d.mantissa / power) 1
  let scaleUp := Binary64.ofRatio false power 1
  let fraction := (Binary64.ofRatio false (d.mantissa % power) 1).div scaleUp
  if fraction.isZero then whole
  else (((whole.add fraction).mul scaleUp).round).div scaleUp

def toBinary64 (d : Decimal) : Binary64 :=
  if d.scale = 0 then Binary64.ofInt d.signed
  else if d.negative then d.magnitude.neg
  else d.magnitude

def ofDigits? (negative : Bool) (whole places : List Char) : Option Decimal :=
  let fits (n : Nat) : Option Decimal :=
    let kept := Nat.ofDigitChars 10 (whole ++ places.take n) 0
    let roundsUp := (places[n]?).any ('5' ≤ ·)
    let mantissa := if roundsUp then kept + 1 else kept
    ofParts? (negative && mantissa != 0) mantissa n
  (List.range (min places.length 28 + 1)).reverse.findSome? fits

def ofText? (s : String) : Option Decimal :=
  let (negative, unsigned) := match s.toList with
    | '-' :: rest => (true, rest)
    | '+' :: rest => (false, rest)
    | cs => (false, cs)
  let whole := unsigned.takeWhile (·.isDigit)
  let rest := unsigned.dropWhile (·.isDigit)
  match rest with
  | [] => if whole.isEmpty then none else ofDigits? negative whole []
  | '.' :: places =>
    if places.all (·.isDigit) && !(whole.isEmpty && places.isEmpty) then
      ofDigits? negative whole places
    else none
  | _ => none

end Decimal
end SqlTemplate
