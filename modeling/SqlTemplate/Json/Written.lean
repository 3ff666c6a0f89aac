import SqlTemplate.Json.Numeral
import SqlTemplate.Value.Entries

namespace SqlTemplate.Json

abbrev CodePoints := List Nat

inductive Written : Type
  | null : Written
  | boolean : Bool → Written
  | number : Numeral → Written
  | string : CodePoints → Written
  | array : List Written → Written
  | object : List (CodePoints × Written) → Written
  deriving Inhabited

def CodePoints.chars? : CodePoints → Option (List Char)
  | [] => some []
  | [n] => if 0xd800 ≤ n ∧ n < 0xe000 then none else some [Char.ofNat n]
  | n :: m :: rest =>
    if 0xd800 ≤ n ∧ n < 0xdc00 ∧ 0xdc00 ≤ m ∧ m < 0xe000 then do
      let chars ← CodePoints.chars? rest
      return Char.ofNat (0x10000 + (n - 0xd800) * 0x400 + (m - 0xdc00)) :: chars
    else if 0xd800 ≤ n ∧ n < 0xe000 then none
    else do return Char.ofNat n :: (← CodePoints.chars? (m :: rest))

def CodePoints.text? (points : CodePoints) : Option String := points.chars?.map String.ofList

namespace Written

mutual

def depth : Written → Nat
  | .array items => itemsDepth items + 1
  | .object members => membersDepth members + 1
  | _ => 0

def itemsDepth : List Written → Nat
  | [] => 0
  | w :: rest => max w.depth (itemsDepth rest)

def membersDepth : List (CodePoints × Written) → Nat
  | [] => 0
  | (_, w) :: rest => max w.depth (membersDepth rest)

end

mutual

def resolve? : Written → Option Json
  | .null => some .null
  | .boolean b => some (.boolean b)
  | .number n => n.value?
  | .string points => points.text?.map .string
  | .array items => (resolveItems? items).map .array
  | .object members => (resolveMembers? members).map fun pairs => .object (Entries.ofList pairs)

def resolveItems? : List Written → Option (List Json)
  | [] => some []
  | w :: rest => do return (← w.resolve?) :: (← resolveItems? rest)

def resolveMembers? : List (CodePoints × Written) → Option (List (String × Json))
  | [] => some []
  | (name, w) :: rest => do
    return (← name.text?, ← w.resolve?) :: (← resolveMembers? rest)

end

def depthLimit : Nat := 127

def data? (above : Nat) (w : Written) : Option Json :=
  if above + w.depth ≤ depthLimit then w.resolve? else none

end Written
end SqlTemplate.Json
