import SqlTemplate.Calendar
import SqlTemplate.Decimal
import SqlTemplate.Text.Segments
import SqlTemplate.Uuid

/-!
The values that parameters hold, tests compute and statements bind.
-/

namespace SqlTemplate

/-- Integers stay within 64 bits: whatever makes one checks the range. The entries of a map are
in ascending order of their keys. An optional value is `absent` or `present`. -/
inductive Value : Type
  | null : Value
  | boolean : Bool → Value
  | integer : Int → Value
  | real : Binary64 → Value
  | numeric : Decimal → Value
  | text : String → Value
  | date : Date → Value
  | timestamp : Timestamp → Value
  | timestampTz : Timestamp → Value
  | uuid : Uuid → Value
  | bytea : List UInt8 → Value
  | list : List Value → Value
  | map : List (String × Value) → Value
  | absent : Value
  | present : Value → Value
  deriving Inhabited

inductive Kind : Type
  | null | boolean | integer | real | numeric | text | date | timestamp | timestampTz | uuid
  | bytea | list | map | nullable
  deriving DecidableEq, Repr

def Kind.name : Kind → String
  | .null => "null"
  | .boolean => "bool"
  | .integer => "integer"
  | .real => "real"
  | .numeric => "numeric"
  | .text => "text"
  | .date => "date"
  | .timestamp => "timestamp"
  | .timestampTz => "timestamptz"
  | .uuid => "uuid"
  | .bytea => "bytea"
  | .list => "list"
  | .map => "map"
  | .nullable => "nullable"

def minInteger : Int := -9223372036854775808

def maxInteger : Int := 9223372036854775807

def isInteger64 (n : Int) : Bool := minInteger ≤ n && n ≤ maxInteger

theorem isInteger64_iff {n : Int} : isInteger64 n = true ↔ minInteger ≤ n ∧ n ≤ maxInteger := by
  rw [isInteger64, Bool.and_eq_true, decide_eq_true_iff, decide_eq_true_iff]

namespace Value

def kind : Value → Kind
  | .null => .null
  | .boolean _ => .boolean
  | .integer _ => .integer
  | .real _ => .real
  | .numeric _ => .numeric
  | .text _ => .text
  | .date _ => .date
  | .timestamp _ => .timestamp
  | .timestampTz _ => .timestampTz
  | .uuid _ => .uuid
  | .bytea _ => .bytea
  | .list _ => .list
  | .map _ => .map
  | .absent => .nullable
  | .present _ => .nullable

/-- Looks through present values; an absent one is null. -/
def resolved : Value → Value
  | .present v => v.resolved
  | .absent => .null
  | v => v

/-- Null, or absent without anything around it. -/
def isNil : Value → Bool
  | .null => true
  | .absent => true
  | _ => false

def asInteger? : Value → Option Int
  | .integer n => some n
  | _ => none

def asBoolean? : Value → Option Bool
  | .boolean b => some b
  | _ => none

/-- The number in binary64 that comparison and arithmetic work on. -/
def asReal? : Value → Option Binary64
  | .integer n => some (.ofInt n)
  | .real x => some x
  | .numeric d => some d.toBinary64
  | _ => none

def numbered (start : Nat) : List Value → List (Value × Value)
  | [] => []
  | v :: rest => (.integer start, v) :: numbered (start + 1) rest

def elements? (v : Value) : Option (List (Value × Value)) :=
  match v.resolved with
  | .list items => some (numbered 0 items)
  | .bytea bytes => some (numbered 0 (bytes.map fun b => .integer b.toNat))
  | .map entries => some (entries.map fun (key, v) => (.text key, v))
  | _ => none

def position? (segment : String) : Option Nat :=
  let digits := match segment.toList with
    | '+' :: rest => rest
    | cs => cs
  if !digits.isEmpty && digits.all (·.isDigit) then some (Nat.ofDigitChars 10 digits 0) else none

def child? (v : Value) (segment : String) : Option Value :=
  match v.resolved with
  | .map entries => entries.lookup segment
  | .list items => do items[← position? segment]?
  | _ => none

def lookup? : List String → Value → Option Value
  | [], v => some v
  | segment :: rest, v => do lookup? rest (← v.child? segment)

@[simp] theorem lookup?_nil (v : Value) : lookup? [] v = some v := rfl

theorem lookup?_append (path rest : List String) (v : Value) :
    lookup? (path ++ rest) v = (lookup? path v).bind (lookup? rest) := by
  induction path generalizing v with
  | nil => rfl
  | cons segment path ih =>
    simp only [List.cons_append, lookup?]
    cases v.child? segment <;> simp [ih]

@[simp] theorem resolved_present (v : Value) : (present v).resolved = v.resolved := rfl

@[simp] theorem resolved_absent : absent.resolved = null := rfl

@[simp] theorem resolved_resolved (v : Value) : v.resolved.resolved = v.resolved := by
  match v with
  | .present v => exact resolved_resolved v
  | .absent | .null | .boolean _ | .integer _ | .real _ | .numeric _ | .text _ | .date _
  | .timestamp _ | .timestampTz _ | .uuid _ | .bytea _ | .list _ | .map _ => rfl

end Value
end SqlTemplate
