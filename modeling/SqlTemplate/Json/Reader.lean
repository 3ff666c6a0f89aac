import SqlTemplate.Json.Written
import SqlTemplate.Text.Hex
import SqlTemplate.Text.Reading

namespace SqlTemplate.Json

open Text (Reading Follows skipGap skipGap_suffix readChar? readWord? readRun?)

def readMinus (s : List Char) : Bool × { r : List Char // r <:+ s } :=
  match s with
  | '-' :: r => (true, ⟨r, List.suffix_cons _ _⟩)
  | r => (false, ⟨r, List.suffix_rfl⟩)

def readWhole? (s : List Char) : Option (Reading (List Char) s) :=
  match s with
  | '0' :: r => some ⟨['0'], r, .cons _ _⟩
  | s => readRun? Char.isDigit s

def readPlaces? (s : List Char) : Option (Reading (List Char) s) := do
  let point ← readChar? (· == '.') s
  let digits ← readRun? Char.isDigit point.rest
  return digits.widen point.suffix

def readExponent? (s : List Char) : Option (Reading (Bool × List Char) s) := do
  let mark ← readChar? (fun c => c == 'e' || c == 'E') s
  match readChar? (fun c => c == '+' || c == '-') mark.rest with
  | some sign =>
    let digits ← readRun? Char.isDigit sign.rest
    return (digits.map ((sign.value == '-'), ·)).widen (sign.follows.trans mark.follows).suffix
  | none =>
    let digits ← readRun? Char.isDigit mark.rest
    return (digits.map (false, ·)).widen mark.suffix

def startsWith (p : Char → Bool) (s : List Char) : Bool := s.head?.any p

def readPart? {α : Type} (p : Char → Bool) (s : List Char)
    (read? : (s : List Char) → Option (Reading α s)) :
    Option (Option α × { r : List Char // r <:+ s }) :=
  if startsWith p s then (read? s).map fun r => (some r.value, ⟨r.rest, r.suffix⟩)
  else some (none, ⟨s, List.suffix_rfl⟩)

def readNumeral? (s : List Char) : Option (Reading Numeral s) := do
  let (negative, ⟨unsigned, h⟩) := readMinus s
  let whole ← readWhole? unsigned
  let (places, ⟨r, hr⟩) ← readPart? (· == '.') whole.rest readPlaces?
  let (exponent, ⟨r', hr'⟩) ← readPart? (fun c => c == 'e' || c == 'E') r readExponent?
  return ⟨⟨negative, whole.value, places, exponent⟩, r',
    (Follows.suffix_of (hr'.trans hr) whole.follows).of_suffix h⟩

def readUnit? : (s : List Char) → Option (Reading Nat s)
  | a :: b :: c :: d :: s =>
    (Text.readHex? [a, b, c, d]).map fun n =>
      ⟨n, s, (((Follows.cons d s).step.step).step)⟩
  | _ => none

def unescape? : Char → Option Char
  | '"' => some '"'
  | '\\' => some '\\'
  | '/' => some '/'
  | 'b' => some '\x08'
  | 'f' => some '\x0c'
  | 'n' => some '\n'
  | 'r' => some '\r'
  | 't' => some '\t'
  | _ => none

def readPoint? : (s : List Char) → Option (Reading Nat s)
  | '\\' :: 'u' :: s =>
    (readUnit? s).map (·.widen ((List.suffix_cons _ _).trans (List.suffix_cons _ _)))
  | '\\' :: c :: s => (unescape? c).map fun u => ⟨u.toNat, s, (Follows.cons c s).step⟩
  | ['\\'] => none
  | c :: s => if c = '"' ∨ c < ' ' then none else some ⟨c.toNat, s, .cons c s⟩
  | [] => none

def readPoints? (s : List Char) : Option (Reading CodePoints s) :=
  match s with
  | '"' :: r => some ⟨[], r, .cons _ _⟩
  | s =>
    match readPoint? s with
    | none => none
    | some point =>
      (readPoints? point.rest).map fun points =>
        (points.map (point.value :: ·)).widen point.suffix
termination_by s.length
decreasing_by exact point.follows.length_lt

def readString? (s : List Char) : Option (Reading CodePoints s) := do
  let quote ← readChar? (· == '"') (skipGap s)
  let points ← readPoints? quote.rest
  return points.widen (quote.suffix.trans (skipGap_suffix s))

def readMark? (mark : Char) (s : List Char) : Option (Reading Unit s) :=
  (readChar? (· == mark) (skipGap s)).map fun r => (r.map fun _ => ()).widen (skipGap_suffix s)

def readScalar? (s : List Char) : Option (Reading Written s) :=
  let t := skipGap s
  let word (w : String) (value : Written) : Option (Reading Written t) :=
    (readWord? (· == ·) w.toList t).map fun r => r.map fun _ => value
  let read : Option (Reading Written t) :=
    word "null" .null
      <|> word "true" (.boolean true)
      <|> word "false" (.boolean false)
      <|> (readString? t).map (·.map .string)
      <|> (readNumeral? t).map (·.map .number)
  read.map (·.widen (skipGap_suffix s))

mutual

def readValue? (s : List Char) : Option (Reading Written s) :=
  match readMark? '[' s with
  | some opening =>
    match readMark? ']' opening.rest with
    | some closing => some ((closing.map fun _ => .array []).widen opening.suffix)
    | none => (readItems? opening.rest).map fun items => (items.map .array).widen opening.suffix
  | none =>
    match readMark? '\x7b' s with
    | some opening =>
      match readMark? '\x7d' opening.rest with
      | some closing => some ((closing.map fun _ => .object []).widen opening.suffix)
      | none =>
        (readMembers? opening.rest).map fun ms => (ms.map .object).widen opening.suffix
    | none => readScalar? s
termination_by (s.length, 0)
decreasing_by
  all_goals exact Prod.Lex.left _ _ opening.follows.length_lt

def readItems? (s : List Char) : Option (Reading (List Written) s) :=
  match readValue? s with
  | none => none
  | some item =>
    match readMark? ',' item.rest with
    | some comma =>
      (readItems? comma.rest).map fun items =>
        (items.map (item.value :: ·)).widen (comma.follows.trans item.follows).suffix
    | none => (readMark? ']' item.rest).map fun closing =>
        (closing.map fun _ => [item.value]).widen item.suffix
termination_by (s.length, 1)
decreasing_by
  · exact Prod.Lex.right _ (by decide)
  · exact Prod.Lex.left _ _ (comma.follows.trans item.follows).length_lt

def readMembers? (s : List Char) : Option (Reading (List (CodePoints × Written)) s) :=
  match readString? s with
  | none => none
  | some name =>
    match readMark? ':' name.rest with
    | none => none
    | some colon =>
      match readValue? colon.rest with
      | none => none
      | some value =>
        match readMark? ',' value.rest with
        | some comma =>
          (readMembers? comma.rest).map fun members =>
            (members.map ((name.value, value.value) :: ·)).widen
              (comma.follows.trans (value.follows.trans (colon.follows.trans name.follows))).suffix
        | none => (readMark? '\x7d' value.rest).map fun closing =>
            (closing.map fun _ => [(name.value, value.value)]).widen
              (value.follows.trans (colon.follows.trans name.follows)).suffix
termination_by (s.length, 1)
decreasing_by
  · exact Prod.Lex.left _ _ (colon.follows.trans name.follows).length_lt
  · exact Prod.Lex.left _ _
      (comma.follows.trans (value.follows.trans (colon.follows.trans name.follows))).length_lt

end

def Written.ofText? (text : String) : Option Written :=
  match readValue? text.toList with
  | some value => if (skipGap value.rest).isEmpty then some value.value else none
  | none => none

def ofText? (text : String) : Option Json := do (← Written.ofText? text).data? 0

end SqlTemplate.Json
