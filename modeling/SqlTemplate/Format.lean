import SqlTemplate.Error
import SqlTemplate.Text.Bytes
import SqlTemplate.Text.Reading
import SqlTemplate.Value.Text

/-!
Formats: text in which one directive, a percent sign with flags, width, precision and a verb,
stands for a value. Two percent signs stand for one.
-/

namespace SqlTemplate

open Text (Reading Remainder readRun?)

structure Directive where
  left : Bool
  zero : Bool
  plus : Bool
  width : Option Nat
  precision : Option Nat
  verb : Char
  deriving DecidableEq, Repr

namespace Directive

def maxWidth : Nat := 4096

def isNumeric (verb : Char) : Bool :=
  verb == 'd' || verb == 'f' || verb == 'F' || verb == 'x' || verb == 'X'

def signed (d : Directive) (negative : Bool) (s : List Char) : List Char :=
  if d.plus && !negative then '+' :: s else s

def integerDigits (base : Nat) (n : Int) : List Char :=
  if n < 0 then '-' :: Nat.toDigits base n.natAbs else Nat.toDigits base n.natAbs

def hexText? (d : Directive) : Value → Option (List Char)
  | .integer n => some (d.signed (n < 0) (integerDigits 16 n))
  | .text s => some (Text.hexBytes (Text.bytes s))
  | .bytea bytes => some (Text.hexBytes bytes)
  | _ => none

def text (d : Directive) (v : Value) : Except FormatFault (List Char) :=
  let shown := v.toText.toList
  let orMismatch : Option (List Char) → Except FormatFault (List Char)
    | some s => .ok s
    | none => .error (.mismatch d.verb v.kind)
  match d.verb with
  | 'v' => .ok shown
  | 's' => .ok (match d.precision with
    | some p => shown.take p
    | none => shown)
  | 'd' => orMismatch (v.asInteger?.map fun n => d.signed (n < 0) (integerDigits 10 n))
  | 'f' | 'F' => orMismatch (v.asReal?.map fun x =>
      d.signed x.isNegative (x.toFixed (d.precision.getD 6)).toList)
  | 'x' => orMismatch (d.hexText? v)
  | 'X' => orMismatch ((d.hexText? v).map (·.map Char.toUpper))
  | 'q' => .ok (Text.Quoted.encode shown)
  | 't' => orMismatch (v.asBoolean?.map fun b => (toString b).toList)
  | c => .error (.unknownVerb c)

def fill (d : Directive) (s : List Char) : List Char :=
  let missing := d.width.getD 0 - s.length
  if d.left then s ++ List.replicate missing ' '
  else if d.zero && isNumeric d.verb then
    match s with
    | '-' :: digits => '-' :: List.replicate missing '0' ++ digits
    | '+' :: digits => '+' :: List.replicate missing '0' ++ digits
    | digits => List.replicate missing '0' ++ digits
  else List.replicate missing ' ' ++ s

def isFlag (c : Char) : Bool := c == '-' || c == '0' || c == '+'

def readSize (s : List Char) : Except FormatFault (Remainder (Option Nat) s) :=
  match readRun? Char.isDigit s with
  | none => .ok ⟨none, s, List.suffix_rfl⟩
  | some run =>
    let n := Nat.ofDigitChars 10 run.value 0
    if n ≤ maxWidth then .ok (run.toRemainder.map fun _ => some n) else .error .tooWide

def readPrecision (s : List Char) : Except FormatFault (Remainder (Option Nat) s) :=
  match s with
  | '.' :: r => do
    let size ← readSize r
    return (size.map fun n => some (n.getD 0)).widen (List.suffix_cons '.' r)
  | s => .ok ⟨none, s, List.suffix_rfl⟩

def read (s : List Char) : Except FormatFault (Reading Directive s) := do
  let flags := s.takeWhile isFlag
  let width ← readSize (s.dropWhile isFlag)
  let precision ← readPrecision width.rest
  match found : precision.rest with
  | [] => .error .missingVerb
  | verb :: rest =>
    have suffix : verb :: rest <:+ s :=
      found ▸ (precision.suffix.trans width.suffix).trans (List.dropWhile_suffix isFlag)
    return ⟨⟨flags.contains '-', flags.contains '0', flags.contains '+', width.value,
      precision.value, verb⟩, rest, (Text.Follows.cons verb rest).of_suffix suffix⟩

end Directive

namespace Format

/-- Writes a format out for a value that is looked through. Exactly one directive has to use the
value; faults are found from left to right. -/
def expand (v : Value) (used : Bool) (s : List Char) : Except FormatFault (List Char) :=
  match s with
  | [] => if used then .ok [] else .error .noVerb
  | '%' :: '%' :: rest => do return '%' :: (← expand v used rest)
  | '%' :: rest => do
    let directive ← Directive.read rest
    if used then .error .moreVerbs
    else do
      let text ← directive.value.text v
      have := directive.follows.length_lt
      return directive.value.fill text ++ (← expand v true directive.rest)
  | c :: rest => do return c :: (← expand v used rest)
termination_by s.length

end Format

def formatValue (pattern : String) (v : Value) : Except Error String :=
  match Format.expand v.resolved false pattern.toList with
  | .ok s => .ok (String.ofList s)
  | .error fault => .error (.format fault pattern)

end SqlTemplate
