import SqlTemplate.Binary64.Reader
import SqlTemplate.Text.Hex
import SqlTemplate.Text.Reading
import SqlTemplate.Toml.Basic
import SqlTemplate.Toml.Moment
import SqlTemplate.Value.Basic

/-!
Reading TOML: lines of keys with values, under the headers of tables.
-/

namespace SqlTemplate.Toml

open Text (Reading Remainder Follows readChar? readRun? readWord?)

def isSpace (c : Char) : Bool := c == ' ' || c == '\t'

def isControl (c : Char) : Bool := (c < ' ' && c != '\t') || c == '\x7f'

def skipSpace (s : List Char) : List Char := s.dropWhile isSpace

theorem skipSpace_suffix (s : List Char) : skipSpace s <:+ s := List.dropWhile_suffix _

def readNewline? : (s : List Char) → Option (Reading Unit s)
  | '\n' :: s => some ⟨(), s, .cons _ _⟩
  | '\r' :: '\n' :: s => some ⟨(), s, (Follows.cons _ _).step⟩
  | _ => none

def skipComment (s : List Char) : Remainder Unit s :=
  match s with
  | '#' :: r =>
    ⟨(), r.dropWhile (!isControl ·), (List.dropWhile_suffix _).trans (List.suffix_cons _ _)⟩
  | s => ⟨(), s, List.suffix_rfl⟩

def skipLines (s : List Char) : Remainder Unit s :=
  let spaced := skipSpace s
  let comment := skipComment spaced
  have h : comment.rest <:+ s := comment.suffix.trans (skipSpace_suffix s)
  match readNewline? comment.rest with
  | some newline =>
    (skipLines newline.rest).widen (newline.suffix.trans h)
  | none => ⟨(), comment.rest, h⟩
termination_by s.length
decreasing_by exact (newline.follows.of_suffix h).length_lt

def skipBreaks : List Char → List Char
  | ' ' :: s => skipBreaks s
  | '\t' :: s => skipBreaks s
  | '\n' :: s => skipBreaks s
  | '\r' :: '\n' :: s => skipBreaks s
  | s => s

theorem skipBreaks_suffix (s : List Char) : skipBreaks s <:+ s := by
  fun_induction skipBreaks s with
  | case1 s ih => exact ih.trans (List.suffix_cons _ _)
  | case2 s ih => exact ih.trans (List.suffix_cons _ _)
  | case3 s ih => exact ih.trans (List.suffix_cons _ _)
  | case4 s ih => exact ih.trans ((List.suffix_cons _ _).trans (List.suffix_cons _ _))
  | case5 s => exact List.suffix_rfl

def readMark? (mark : Char) (s : List Char) : Option (Reading Unit s) :=
  (readChar? (· == mark) (skipSpace s)).map fun r => (r.map fun _ => ()).widen (skipSpace_suffix s)

def charOfHex? (digits : List Char) : Option Char := do
  let n ← Text.readHex? digits
  if n < 0xd800 ∨ (0xe000 ≤ n ∧ n < 0x110000) then some (Char.ofNat n) else none

def readEscape? : (s : List Char) → Option (Reading Char s)
  | 'b' :: s => some ⟨'\x08', s, .cons _ _⟩
  | 't' :: s => some ⟨'\t', s, .cons _ _⟩
  | 'n' :: s => some ⟨'\n', s, .cons _ _⟩
  | 'f' :: s => some ⟨'\x0c', s, .cons _ _⟩
  | 'r' :: s => some ⟨'\r', s, .cons _ _⟩
  | '"' :: s => some ⟨'"', s, .cons _ _⟩
  | '\\' :: s => some ⟨'\\', s, .cons _ _⟩
  | 'u' :: s =>
    if (s.take 4).length = 4 then (charOfHex? (s.take 4)).map fun c =>
      ⟨c, s.drop 4, .suffix_of (List.drop_suffix 4 s) (.cons _ _)⟩
    else none
  | 'U' :: s =>
    if (s.take 8).length = 8 then (charOfHex? (s.take 8)).map fun c =>
      ⟨c, s.drop 8, .suffix_of (List.drop_suffix 8 s) (.cons _ _)⟩
    else none
  | _ => none

def readBasic? (s : List Char) : Option (Reading (List Char) s) :=
  match s with
  | [] => none
  | '"' :: r => some ⟨[], r, .cons _ _⟩
  | '\\' :: r =>
    match readEscape? r with
    | none => none
    | some c => (readBasic? c.rest).map fun cs =>
        (cs.map (c.value :: ·)).widen (c.follows.step (c := '\\')).1
  | c :: r =>
    if isControl c then none
    else (readBasic? r).map fun cs => (cs.map (c :: ·)).widen (List.suffix_cons _ _)
termination_by s.length
decreasing_by
  · exact (c.follows.step (c := '\\')).length_lt
  · simp

def readLiteral? (s : List Char) : Option (Reading (List Char) s) :=
  match s with
  | [] => none
  | '\'' :: r => some ⟨[], r, .cons _ _⟩
  | c :: r =>
    if isControl c then none
    else (readLiteral? r).map fun cs => (cs.map (c :: ·)).widen (List.suffix_cons _ _)

def readClosing? (quote : Char) (s : List Char) : Option (Reading (List Char) s) :=
  let run := s.takeWhile (· == quote)
  if h : 3 ≤ run.length ∧ run.length ≤ 5 then
    some ⟨run.drop 3, s.drop run.length, List.drop_suffix _ _, by
      have : run.length ≤ s.length := (List.takeWhile_prefix _).length_le
      simp only [List.length_drop]
      omega⟩
  else none

def readLong? (quote : Char) (escapes : Bool) (s : List Char) : Option (Reading (List Char) s) :=
  if [quote, quote, quote].isPrefixOf s then readClosing? quote s
  else
    match s with
    | [] => none
    | c :: r =>
      if escapes ∧ c = '\\' then
        match readEscape? r with
        | some e => (readLong? quote escapes e.rest).map fun cs =>
            (cs.map (e.value :: ·)).widen e.follows.step.1
        | none =>
          match readNewline? (skipSpace r) with
          | none => none
          | some newline =>
            have h : Follows (skipBreaks newline.rest) (c :: r) :=
              .suffix_of (skipBreaks_suffix _)
                ((newline.follows.of_suffix (skipSpace_suffix r)).step)
            (readLong? quote escapes (skipBreaks newline.rest)).map (·.widen h.1)
      else if isControl c ∧ c ≠ '\n' ∧ ¬(c = '\r' ∧ r.head? = some '\n') then none
      else (readLong? quote escapes r).map fun cs => (cs.map (c :: ·)).widen (List.suffix_cons _ _)
termination_by s.length
decreasing_by
  · exact e.follows.step.length_lt
  · exact h.length_lt
  · simp

def skipFirstNewline (s : List Char) : Remainder Unit s :=
  match readNewline? s with
  | some newline => newline.toRemainder
  | none => ⟨(), s, List.suffix_rfl⟩

def readString? (s : List Char) : Option (Reading (List Char) s) :=
  let long (quote : Char) (escapes : Bool) : Option (Reading (List Char) s) := do
    let opening ← readWord? (· == ·) [quote, quote, quote] s
    let start := skipFirstNewline opening.rest
    let content ← readLong? quote escapes start.rest
    return opening.after (content.widen start.suffix)
  let short (quote : Char) (read? : (r : List Char) → Option (Reading (List Char) r)) :
      Option (Reading (List Char) s) := do
    let opening ← readChar? (· == quote) s
    return opening.after (← read? opening.rest)
  long '"' true <|> long '\'' false <|> short '"' readBasic? <|> short '\'' readLiteral?

def depthLimit : Nat := 80

def isKeyChar (c : Char) : Bool := c.isAlphanum || c == '_' || c == '-'

def readSegment? (s : List Char) : Option (Reading String s) :=
  let read : Option (Reading (List Char) (skipSpace s)) :=
    match skipSpace s with
    | '"' :: r => (readBasic? r).map (·.widen (List.suffix_cons _ _))
    | '\'' :: r => (readLiteral? r).map (·.widen (List.suffix_cons _ _))
    | r => readRun? isKeyChar r
  read.map fun r => (r.map String.ofList).widen (skipSpace_suffix s)

def readSegments? (s : List Char) : Option (Reading (List String) s) :=
  match readSegment? s with
  | none => none
  | some segment =>
    match readMark? '.' segment.rest with
    | none => some (segment.map fun k => [k])
    | some dot => (readSegments? dot.rest).map fun more =>
        segment.after (dot.after (more.map (segment.value :: ·)))
termination_by s.length
decreasing_by exact (segment.after dot).follows.length_lt

def readKey? (s : List Char) : Option (Reading Key s) := do
  let segments ← readSegments? s
  let key ← Key.ofList? segments.value
  if segments.value.length < depthLimit then return segments.map fun _ => key else none

def plainDigits? (isDigit : Char → Bool) (s : List Char) : Option (List Char) :=
  let groups := Text.splitOn '_' s
  if groups.all fun g => !g.isEmpty && g.all isDigit then some groups.flatten else none

def inRange? (n : Int) : Option Toml := if isInteger64 n then some (.integer n) else none

def decimalInteger? (negative : Bool) (s : List Char) : Option Toml := do
  let digits ← plainDigits? Char.isDigit s
  if digits.head? = some '0' ∧ 1 < digits.length then none
  else
    let n : Int := Nat.ofDigitChars 10 digits 0
    inRange? (if negative then -n else n)

def basedInteger? : List Char → Option Toml
  | '0' :: mark :: s => do
    let base ← [('x', 16), ('o', 8), ('b', 2)].lookup mark
    let digits ← plainDigits? (fun c => (Text.hexValue? c).any (· < base)) s
    inRange? (digits.foldl (fun n c => n * base + ((Text.hexValue? c).getD 0 : Int)) 0)
  | _ => none

def digitRun? (s : List Char) : Option (List Char × List Char) :=
  let written := s.takeWhile fun c => c.isDigit || c == '_'
  (plainDigits? Char.isDigit written).map fun digits => (digits, s.drop written.length)

def pointed? : List Char → Option (List Char × List Char)
  | '.' :: s => (digitRun? s).map fun (digits, rest) => ('.' :: digits, rest)
  | s => some ([], s)

def exponent? : List Char → Option (List Char)
  | [] => some []
  | mark :: '-' :: s => (plainDigits? Char.isDigit s).map fun digits => mark :: '-' :: digits
  | mark :: '+' :: s => (plainDigits? Char.isDigit s).map fun digits => mark :: '+' :: digits
  | mark :: s => (plainDigits? Char.isDigit s).map fun digits => mark :: digits

def decimalReal? (negative : Bool) (s : List Char) : Option Toml := do
  let (whole, rest) ← digitRun? s
  let (places, mark) ← pointed? rest
  let exponent ← exponent? mark
  if rest.isEmpty ∨ (whole.head? = some '0' ∧ 1 < whole.length) then none
  else
    let x ← Binary64.ofUnsigned? negative (whole ++ places ++ exponent)
    if x = .infinite false then none else some (.real x)

def specialReal? (negative : Bool) (s : List Char) : Option Toml :=
  if s = ['i', 'n', 'f'] then some (.real (.infinite negative))
  else if s = ['n', 'a', 'n'] then some (.real .nan)
  else none

def signedNumber? (negative : Bool) (s : List Char) : Option Toml :=
  specialReal? negative s <|> decimalInteger? negative s <|> decimalReal? negative s

def scalar? (s : List Char) : Option Toml :=
  if s = "true".toList then some (.boolean true)
  else if s = "false".toList then some (.boolean false)
  else if Moment.accepts s then some (.moment (String.ofList s))
  else match s with
    | '+' :: r => signedNumber? false r
    | '-' :: r => signedNumber? true r
    | r => basedInteger? r <|> signedNumber? false r

def isScalarChar (c : Char) : Bool :=
  c.isAlphanum || c == '_' || c == '+' || c == '-' || c == '.' || c == ':'

def scalarRun (s : List Char) : List Char :=
  let run := s.takeWhile isScalarChar
  match s.drop run.length with
  | ' ' :: c :: rest =>
    if c.isDigit ∧ run.length = 10 ∧ Moment.accepts run then
      run ++ ' ' :: (c :: rest).takeWhile isScalarChar
    else run
  | _ => run

def readScalar? (s : List Char) : Option (Reading Toml s) :=
  match s with
  | [] => none
  | c :: r =>
    (scalar? (scalarRun (c :: r))).map fun v =>
      ⟨v, r.drop ((scalarRun (c :: r)).length - 1),
        .suffix_of (List.drop_suffix _ _) (.cons c r)⟩

mutual

def readValue? (depth : Nat) (s : List Char) : Option (Reading Toml s) :=
  match readMark? '[' s with
  | some opening =>
    if depth + 1 < depthLimit then
      (readItems? (depth + 1) opening.rest).map fun vs => opening.after (vs.map .array)
    else none
  | none =>
    match readMark? '\x7b' s with
    | some opening =>
      if depth + 1 < depthLimit then
        match readMark? '\x7d' opening.rest with
        | some closing => some (opening.after (closing.map fun _ => .table []))
        | none => (readPairs? (depth + 1) [] opening.rest).map fun t =>
            opening.after (t.map fun slots => .table (Slots.toTable slots))
      else none
    | none =>
      ((readString? (skipSpace s)).map (·.map fun cs => Toml.text (String.ofList cs))
        <|> readScalar? (skipSpace s)).map (·.widen (skipSpace_suffix s))
termination_by (s.length, 0)
decreasing_by all_goals exact Prod.Lex.left _ _ opening.follows.length_lt

def readItems? (depth : Nat) (s : List Char) : Option (Reading (List Toml) s) :=
  let start := skipLines s
  match readMark? ']' start.rest with
  | some closing => some ((closing.map fun _ => []).widen start.suffix)
  | none =>
    match readValue? depth start.rest with
    | none => none
    | some item =>
      let behind := skipLines item.rest
      match readMark? ',' behind.rest with
      | some comma =>
        have h : Follows comma.rest s :=
          (comma.follows.of_suffix behind.suffix).trans (item.follows.of_suffix start.suffix)
        (readItems? depth comma.rest).map fun vs => (vs.map (item.value :: ·)).widen h.1
      | none =>
        (readMark? ']' behind.rest).map fun closing =>
          ((closing.map fun _ => [item.value]).widen behind.suffix).widen
            (item.follows.of_suffix start.suffix).1
termination_by (s.length, 1)
decreasing_by
  · rcases Nat.lt_or_eq_of_le start.suffix.length_le with h | h
    · exact Prod.Lex.left _ _ h
    · rw [h]
      exact Prod.Lex.right _ (by decide)
  · exact Prod.Lex.left _ _ h.length_lt

def readPairs? (depth : Nat) (slots : Slots) (s : List Char) : Option (Reading Slots s) :=
  match readKey? s with
  | none => none
  | some key =>
    match readMark? '=' key.rest with
    | none => none
    | some equals =>
      match readValue? depth equals.rest with
      | none => none
      | some value =>
        match key.value.add value.value slots with
        | none => none
        | some slots =>
          have h : Follows value.rest s := value.follows.trans (equals.follows.trans key.follows)
          match readMark? ',' value.rest with
          | some comma =>
            (readPairs? depth slots comma.rest).map (·.widen (comma.follows.trans h).1)
          | none => (readMark? '\x7d' value.rest).map fun closing =>
              (closing.map fun _ => slots).widen h.1
termination_by (s.length, 1)
decreasing_by
  · exact Prod.Lex.left _ _ (equals.follows.trans key.follows).length_lt
  · exact Prod.Lex.left _ _ (comma.follows.trans h).length_lt

end

structure Progress where
  current : List String
  slots : Slots

def readPair? (p : Progress) (s : List Char) : Option (Reading Progress s) := do
  let key ← readKey? s
  let equals ← readMark? '=' key.rest
  let value ← readValue? 0 equals.rest
  let slots ← Slots.updateAt .outer (key.value.add value.value) p.current p.slots
  return key.after (equals.after (value.map fun _ => ⟨p.current, slots⟩))

def readHeader? (p : Progress) (s : List Char) : Option (Reading Progress s) := do
  let opening ← readMark? '[' s
  let key ← readKey? opening.rest
  let closing ← readMark? ']' key.rest
  let slots ← Slots.updateAt .outer (Slots.openTable key.value.last) key.value.path p.slots
  return opening.after (key.after (closing.map fun _ =>
    ⟨key.value.path ++ [key.value.last], slots⟩))

def readItemHeader? (p : Progress) (s : List Char) : Option (Reading Progress s) := do
  let opening ← readWord? (· == ·) ['[', '['] s
  let key ← readKey? opening.rest
  let closing ← readMark? ']' key.rest
  let last ← readChar? (· == ']') closing.rest
  let slots ← Slots.updateAt .outer (Slots.openItem key.value.last) key.value.path p.slots
  return opening.after (key.after (closing.after (last.map fun _ =>
    ⟨key.value.path ++ [key.value.last], slots⟩)))

def readLines? (p : Progress) (s : List Char) : Option Slots :=
  let start := skipLines s
  if start.rest.isEmpty then some p.slots
  else
    match readItemHeader? p start.rest <|> readHeader? p start.rest <|> readPair? p start.rest with
    | none => none
    | some line =>
      let spaced := skipSpace line.rest
      let comment := skipComment spaced
      if comment.rest.isEmpty then some line.value.slots
      else match readNewline? comment.rest with
        | none => none
        | some newline => readLines? line.value newline.rest
termination_by s.length
decreasing_by
  exact (newline.follows.trans (.suffix_of (comment.suffix.trans (skipSpace_suffix _))
    (line.follows.of_suffix start.suffix))).length_lt

def ofText? (text : String) : Option (List (String × Toml)) :=
  let s := match text.toList with
    | '\ufeff' :: s => s
    | s => s
  (readLines? ⟨[], []⟩ s).map Slots.toTable

end SqlTemplate.Toml
