import SqlTemplate.Binary64.Shortest
import SqlTemplate.Json.Basic
import SqlTemplate.Text.Digits

namespace SqlTemplate.Json

def escape (c : Char) : List Char :=
  if c = '"' then ['\\', '"']
  else if c = '\\' then ['\\', '\\']
  else if c = '\x08' then ['\\', 'b']
  else if c = '\x0c' then ['\\', 'f']
  else if c = '\n' then ['\\', 'n']
  else if c = '\r' then ['\\', 'r']
  else if c = '\t' then ['\\', 't']
  else if c < ' ' then
    ['\\', 'u', '0', '0', Nat.digitChar (c.toNat / 16), Nat.digitChar (c.toNat % 16)]
  else [c]

def quote (s : String) : String := String.ofList (['"'] ++ s.toList.flatMap escape ++ ['"'])

def realDigits (x : Binary64.Scientific) : List Char :=
  let digits := Nat.toDigits 10 x.digits
  let power : Int := digits.length - 1 + x.exponent
  if x.digits = 0 then ['0', '.', '0']
  else if -5 ≤ power ∧ power ≤ 15 then
    if 0 ≤ x.exponent then digits ++ List.replicate x.exponent.toNat '0' ++ ['.', '0']
    else Text.withPlaces (-x.exponent).toNat x.digits
  else
    Text.pointed (digits.length - 1) digits
      ++ ['e', if power < 0 then '-' else '+'] ++ Nat.toDigits 10 power.natAbs

def realText : Binary64 → String
  | .finite s m => Text.minus s ++ String.ofList (realDigits (m.shortest false))
  | _ => "null"

mutual

def compact : Json → String
  | .null => "null"
  | .boolean b => if b then "true" else "false"
  | .integer n => toString n
  | .real x => realText x
  | .string s => quote s
  | .array items => "[" ++ String.intercalate "," (compactItems items) ++ "]"
  | .object members => "\x7b" ++ String.intercalate "," (compactMembers members) ++ "\x7d"

def compactItems : List Json → List String
  | [] => []
  | item :: rest => compact item :: compactItems rest

def compactMembers : List (String × Json) → List String
  | [] => []
  | (name, value) :: rest => (quote name ++ ":" ++ compact value) :: compactMembers rest

end

def newline (level : Nat) : String := "\n" ++ String.ofList (List.replicate (2 * level) ' ')

def block (level : Nat) (opening closing : String) (parts : List String) : String :=
  if parts.isEmpty then opening ++ closing
  else
    opening ++ newline (level + 1) ++ String.intercalate ("," ++ newline (level + 1)) parts
      ++ newline level ++ closing

mutual

def pretty (level : Nat) : Json → String
  | .array items => block level "[" "]" (prettyItems (level + 1) items)
  | .object members => block level "\x7b" "\x7d" (prettyMembers (level + 1) members)
  | .null => "null"
  | .boolean b => if b then "true" else "false"
  | .integer n => toString n
  | .real x => realText x
  | .string s => quote s

def prettyItems (level : Nat) : List Json → List String
  | [] => []
  | item :: rest => pretty level item :: prettyItems level rest

def prettyMembers (level : Nat) : List (String × Json) → List String
  | [] => []
  | (name, value) :: rest =>
    (quote name ++ ": " ++ pretty level value) :: prettyMembers level rest

end

end SqlTemplate.Json
