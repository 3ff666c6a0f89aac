import SqlTemplate.Text.Alphanumeric
import SqlTemplate.Text.Reading
import SqlTemplate.Value.Basic

namespace SqlTemplate.Condition

open Text (Reading Follows skipGap skipGap_suffix readChar? readWord? readRun?)

def isWordChar (c : Char) : Bool := c.isAlphanum || c == '_'

def startsName (c : Char) : Bool := c.isAlpha || c == '_'

def continuesName (c : Char) : Bool := Text.isAlphanumeric c || c == '_'

def mark? (word : String) (s : List Char) : Option (Reading Unit s) :=
  (readWord? (· == ·) word.toList (skipGap s)).map fun r =>
    (r.widen (skipGap_suffix s)).skipAfter

def keyword? (word : String) (s : List Char) : Option (Reading Unit s) := do
  let r ← readWord? (fun w c => c.toLower == w) word.toList s
  if r.rest.head?.any isWordChar then none else return r

def wordMark? (word : String) (s : List Char) : Option (Reading Unit s) :=
  (keyword? word (skipGap s)).map fun r => (r.widen (skipGap_suffix s)).skipAfter

def firstMark? {α : Type} (marks : List (String × α)) (s : List Char) : Option (Reading α s) :=
  marks.findSome? fun (word, a) => (mark? word s).map fun r => r.map fun _ => a

def identifier? : (s : List Char) → Option (Reading String s)
  | [] => none
  | c :: s =>
    if startsName c then
      some ⟨String.ofList (c :: s.takeWhile continuesName), s.dropWhile continuesName,
        .suffix_of (List.dropWhile_suffix _) (.cons c s)⟩
    else none

def upper (c : Char) : Char :=
  if c = 'ı' then 'I' else if c = 'ſ' then 'S' else c.toUpper

def reservedWords : List String := ["AND", "OR", "NOT", "IN", "TRUE", "FALSE", "NIL", "NULL"]

def isReserved (name : String) : Bool :=
  reservedWords.contains (String.ofList (name.toList.map upper))

def segments (s : List Char) : Text.Remainder (List Char) s :=
  match (readChar? (· == '.') s).bind fun dot => (readRun? isWordChar dot.rest).map dot.after with
  | some run =>
    ((segments run.rest).map ('.' :: run.value ++ ·)).widen run.suffix
  | none => ⟨[], s, List.suffix_rfl⟩
termination_by s.length
decreasing_by exact run.follows.length_lt

def paramPath? (s : List Char) : Option (Reading String s) := do
  let name ← identifier? s
  let path := (segments name.rest).map fun more => name.value ++ String.ofList more
  if isReserved name.value then none else return path.after name

def places? (s : List Char) : Option (Reading (List Char) s) := do
  let point ← readChar? (· == '.') s
  return point.after (← readRun? Char.isDigit point.rest)

def number? (s : List Char) : Option (Reading Value s) := do
  let whole ← readRun? Char.isDigit s
  match places? whole.rest with
  | some places =>
    let digits := Nat.ofDigitChars 10 (whole.value ++ places.value) 0
    return whole.after (places.map fun ds => .real (.ofRatio false digits (Nat.pow 10 ds.length)))
  | none =>
    let n := Nat.ofDigitChars 10 whole.value 0
    if isInteger64 n then return whole.map fun _ => .integer n else none

def quoted? (quote : Char) (s : List Char) : Option (Reading Value s) := do
  let opening ← readChar? (· == quote) s
  let content := opening.rest.takeWhile (· != quote)
  let closing ← readChar? (· == quote) (opening.rest.dropWhile (· != quote))
  return opening.after ((closing.map fun _ => .text (String.ofList content)).widen
    (List.dropWhile_suffix _))

def literal? (s : List Char) : Option (Reading Value s) :=
  let word (w : String) (v : Value) := (keyword? w s).map fun r => r.map fun _ => v
  number? s <|> quoted? '\'' s <|> quoted? '"' s <|> word "true" (.boolean true)
    <|> word "false" (.boolean false) <|> word "nil" .null <|> word "null" .null

end SqlTemplate.Condition
