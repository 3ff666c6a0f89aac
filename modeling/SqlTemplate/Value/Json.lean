import SqlTemplate.Json.Basic
import SqlTemplate.Value.Basic

namespace SqlTemplate.Value

mutual

def ofJson : Json → Value
  | .null => .null
  | .boolean b => .boolean b
  | .integer n => if isInteger64 n then .integer n else .real (.ofInt n)
  | .real x => .real x
  | .string s => .text s
  | .array items => .list (ofJsonItems items)
  | .object members => .map (ofJsonMembers members)

def ofJsonItems : List Json → List Value
  | [] => []
  | item :: rest => ofJson item :: ofJsonItems rest

def ofJsonMembers : List (String × Json) → List (String × Value)
  | [] => []
  | (name, value) :: rest => (name, ofJson value) :: ofJsonMembers rest

end

mutual

def toJson : Value → Json
  | .null => .null
  | .boolean b => .boolean b
  | .integer n => .integer n
  | .real x => if x.isFinite then .real x else .null
  | .numeric d => .string d.toText
  | .text s => .string s
  | .date d => .string d.toText
  | .timestamp t => .string t.toIsoText
  | .timestampTz t => .string (t.toIsoText ++ "Z")
  | .uuid u => .string u.toText
  | .bytea bytes => .array (bytes.map fun b => .integer b.toNat)
  | .list items => .array (toJsonItems items)
  | .map entries => .object (toJsonMembers entries)
  | .absent => .null
  | .present v => toJson v

def toJsonItems : List Value → List Json
  | [] => []
  | v :: rest => toJson v :: toJsonItems rest

def toJsonMembers : List (String × Value) → List (String × Json)
  | [] => []
  | (key, v) :: rest => (key, toJson v) :: toJsonMembers rest

end

end SqlTemplate.Value
