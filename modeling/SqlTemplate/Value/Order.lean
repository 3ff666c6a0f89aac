import SqlTemplate.Value.Basic

namespace SqlTemplate.Value

mutual

/-- Equality of values of one kind, element by element: decimals and reals by number, a NaN
equal to nothing. -/
def equals : Value → Value → Bool
  | .null, .null => true
  | .boolean a, .boolean b => a == b
  | .integer a, .integer b => a == b
  | .real a, .real b => a.equals b
  | .numeric a, .numeric b => a.equals b
  | .text a, .text b => a == b
  | .date a, .date b => a == b
  | .timestamp a, .timestamp b => a == b
  | .timestampTz a, .timestampTz b => a == b
  | .uuid a, .uuid b => a == b
  | .bytea a, .bytea b => a == b
  | .list a, .list b => equalItems a b
  | .map a, .map b => equalEntries a b
  | .absent, .absent => true
  | .present a, .present b => equals a b
  | _, _ => false

def equalItems : List Value → List Value → Bool
  | [], [] => true
  | a :: as, b :: bs => equals a b && equalItems as bs
  | _, _ => false

def equalEntries : List (String × Value) → List (String × Value) → Bool
  | [], [] => true
  | (k, a) :: as, (l, b) :: bs => k == l && equals a b && equalEntries as bs
  | _, _ => false

end

/-- Equality as tests see it: numbers by their binary64 forms, the two kinds of nil as one. -/
def agrees (a b : Value) : Bool :=
  match a.asReal?, b.asReal? with
  | some x, some y => x.equals y
  | _, _ => (a.isNil && b.isNil) || a.equals b

/-- The order of two values that have one: texts by code points, dates and timestamps by time,
numbers by their binary64 forms. -/
def compare? : Value → Value → Option Ordering
  | .text a, .text b => some (compare a b)
  | .date a, .date b => some (compare a.parts b.parts)
  | .timestamp a, .timestamp b => some (compare a.parts b.parts)
  | .timestampTz a, .timestampTz b => some (compare a.parts b.parts)
  | a, b => do (← a.asReal?).compare? (← b.asReal?)

end SqlTemplate.Value
