import SqlTemplate.Binary64.Arithmetic

namespace SqlTemplate.Binary64

def ofScientific (negative : Bool) (n : Nat) (exponent : Int) : Binary64 :=
  let power := exponent + (Nat.toDigits 10 n).length
  if n = 0 then zero negative
  else if 310 < power then .infinite negative
  else if power < -330 then zero negative
  else if exponent < 0 then ofRatio negative n (Nat.pow 10 exponent.natAbs)
  else ofRatio negative (n * Nat.pow 10 exponent.natAbs) 1

def exponentOf? : List Char → Option Int
  | [] => some 0
  | mark :: s =>
    let (negative, digits) := match s with
      | '-' :: digits => (true, digits)
      | '+' :: digits => (false, digits)
      | digits => (false, digits)
    if (mark = 'e' ∨ mark = 'E') ∧ !digits.isEmpty ∧ digits.all Char.isDigit then
      let n : Int := Nat.ofDigitChars 10 digits 0
      some (if negative then -n else n)
    else none

def ofUnsigned? (negative : Bool) (s : List Char) : Option Binary64 :=
  let word := String.ofList (s.map Char.toLower)
  if word = "inf" ∨ word = "infinity" then some (.infinite negative)
  else if word = "nan" then some .nan
  else
    let whole := s.takeWhile Char.isDigit
    let (places, rest) := match s.dropWhile Char.isDigit with
      | '.' :: rest => (rest.takeWhile Char.isDigit, rest.dropWhile Char.isDigit)
      | rest => ([], rest)
    let digits := whole ++ places
    if digits.isEmpty then none
    else (exponentOf? rest).map fun exponent =>
      ofScientific negative (Nat.ofDigitChars 10 digits 0) (exponent - places.length)

def ofChars? : List Char → Option Binary64
  | '-' :: s => ofUnsigned? true s
  | '+' :: s => ofUnsigned? false s
  | s => ofUnsigned? false s

end SqlTemplate.Binary64
