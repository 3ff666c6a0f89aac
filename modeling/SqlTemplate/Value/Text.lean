import SqlTemplate.Binary64.Text
import SqlTemplate.Text.Hex
import SqlTemplate.Value.Basic

namespace SqlTemplate.Value

mutual

def toText : Value → String
  | .null => "NULL"
  | .boolean b => if b then "true" else "false"
  | .integer n => toString n
  | .real x => x.toText
  | .numeric d => d.toText
  | .text s => s
  | .date d => d.toText
  | .timestamp t => t.toText
  | .timestampTz t => t.toText ++ " UTC"
  | .uuid u => u.toText
  | .bytea bytes => "\\x" ++ String.ofList (Text.hexBytes bytes)
  | .list items => "[" ++ String.intercalate " " (itemTexts items) ++ "]"
  | .map entries => "map[" ++ String.intercalate " " (entryTexts entries) ++ "]"
  | .absent => "NULL"
  | .present v => toText v

def itemTexts : List Value → List String
  | [] => []
  | v :: rest => toText v :: itemTexts rest

def entryTexts : List (String × Value) → List String
  | [] => []
  | (key, v) :: rest => (key ++ ":" ++ toText v) :: entryTexts rest

end

end SqlTemplate.Value
