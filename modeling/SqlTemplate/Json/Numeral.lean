import SqlTemplate.Binary64.Arithmetic
import SqlTemplate.Json.Basic

namespace SqlTemplate.Json

structure Numeral where
  negative : Bool
  whole : List Char
  places : Option (List Char)
  exponent : Option (Bool × List Char)
  deriving DecidableEq

namespace Numeral

def maxSignificand : Nat := 18446744073709551615

def maxNegated : Nat := 9223372036854775808

def maxExponent : Nat := 2147483647

def accumulate (significand : Nat) : List Char → Nat × List Char
  | [] => (significand, [])
  | c :: digits =>
    let next := significand * 10 + (c.toNat - '0'.toNat)
    if next ≤ maxSignificand then accumulate next digits else (significand, c :: digits)

def powerOfTen (n : Nat) : Binary64 := .ofRatio false (Nat.pow 10 n) 1

def divideByPower (x : Binary64) (n : Nat) : Binary64 :=
  if n ≤ 308 then x.div (powerOfTen n)
  else if x.isZero then x
  else divideByPower (x.div (powerOfTen 308)) (n - 308)
termination_by n

def scale? (significand : Nat) (exponent : Int) : Option Binary64 :=
  let x := Binary64.ofInt significand
  if exponent < 0 then some (divideByPower x exponent.natAbs)
  else if 308 < exponent then (if x.isZero then some x else none)
  else
    let scaled := x.mul (powerOfTen exponent.natAbs)
    if scaled.isFinite then some scaled else none

def exponentValue? (digits : List Char) : Option Nat :=
  let n := Nat.ofDigitChars 10 digits 0
  if n ≤ maxExponent then some n else none

def magnitude? (n : Numeral) : Option Binary64 :=
  let (significand, dropped) := accumulate 0 n.whole
  let places := n.places.getD []
  let (significand, unread) := accumulate significand places
  let shift : Int := dropped.length - (places.length - unread.length : Nat)
  match n.exponent with
  | none => scale? significand shift
  | some (negative, digits) =>
    match exponentValue? digits with
    | some e => scale? significand (if negative then shift - e else shift + e)
    | none => if significand = 0 ∨ negative then some (.zero false) else none

/-- The number that a numeral writes. A negative whole number below the range of 64 bits is not
whole, nor is the negative zero. -/
def value? (n : Numeral) : Option Json :=
  let whole := Nat.ofDigitChars 10 n.whole 0
  if n.places.isNone ∧ n.exponent.isNone ∧ whole ≤ maxSignificand then
    if !n.negative then some (.integer whole)
    else if whole ≠ 0 ∧ whole ≤ maxNegated then some (.integer (-(whole : Int)))
    else some (.real (Binary64.ofInt whole).neg)
  else
    n.magnitude?.map fun x => .real (if n.negative then x.neg else x)

end Numeral
end SqlTemplate.Json
