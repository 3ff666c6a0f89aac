import SqlTemplate.Calendar

namespace SqlTemplate.Toml.Moment

def group? (size limit : Nat) (s : List Char) : Option (Nat × List Char) :=
  let digits := s.take size
  let n := Nat.ofDigitChars 10 digits 0
  if digits.length = size ∧ digits.all Char.isDigit ∧ n < limit then some (n, s.drop size)
  else none

def behind? (mark : Char) : List Char → Option (List Char)
  | [] => none
  | c :: s => if c = mark then some s else none

def date? (s : List Char) : Option (List Char) := do
  let (year, s) ← group? 4 10000 s
  let (month, s) ← group? 2 13 (← behind? '-' s)
  let (day, s) ← group? 2 32 (← behind? '-' s)
  let _ ← Date.ofParts? year month day
  return s

def skipFraction : List Char → List Char
  | '.' :: c :: s => if c.isDigit then s.dropWhile Char.isDigit else '.' :: c :: s
  | s => s

def time? (s : List Char) : Option (List Char) := do
  let (_, s) ← group? 2 24 s
  let (_, s) ← group? 2 60 (← behind? ':' s)
  let (_, s) ← group? 2 61 (← behind? ':' s)
  return skipFraction s

def isDistance (s : List Char) : Bool :=
  match (do group? 2 60 (← behind? ':' (← group? 2 24 s).2)) with
  | some (_, rest) => rest.isEmpty
  | none => false

def isZone : List Char → Bool
  | [] => true
  | ['Z'] => true
  | ['z'] => true
  | '+' :: s => isDistance s
  | '-' :: s => isDistance s
  | _ => false

def isSeparator (c : Char) : Bool := c == 'T' || c == 't' || c == ' '

def accepts (s : List Char) : Bool :=
  match date? s with
  | some [] => true
  | some (c :: rest) => isSeparator c && (time? rest).any isZone
  | none => (time? s).any List.isEmpty

end SqlTemplate.Toml.Moment
