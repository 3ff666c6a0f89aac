import SqlTemplate.Text.Hex

namespace SqlTemplate

structure Uuid where
  bits : BitVec 128
  deriving DecidableEq

namespace Uuid

def groups : List Nat := [8, 4, 4, 4, 12]

def hyphenate : List Nat → List Char → List Char
  | [], s => s
  | [_], s => s
  | n :: ns, s => s.take n ++ '-' :: hyphenate ns (s.drop n)

def toText (u : Uuid) : String :=
  let digits := Nat.toDigits 16 u.bits.toNat
  String.ofList (hyphenate groups (List.replicate (32 - digits.length) '0' ++ digits))

def ofText? (s : String) : Option Uuid :=
  let digits := s.toList.filter (· ≠ '-')
  let written := s.toList
  if digits.length = 32 ∧ (written = digits ∨ written = hyphenate groups digits) then
    (Text.readHex? digits).map fun n => ⟨BitVec.ofNat 128 n⟩
  else none

end Uuid
end SqlTemplate
