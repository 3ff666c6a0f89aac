import SqlTemplate.Printer
import SqlTemplate.Text.Blank

/-!
The joining of optional fragments into one clause: a `WHERE` without dangling connectors and a
`SET` without a dangling comma, or nothing at all where no fragment is written.
-/

namespace SqlTemplate.Clause

def connectors : List (List Char) := [['o', 'r'], ['a', 'n', 'd']]

def isConnector (s : List Char) : Bool := connectors.contains (s.map Char.toLower)

def opensWith (word s : List Char) : Bool :=
  (s.take word.length).map Char.toLower == word
    && (s.drop word.length).head?.any Text.isAsciiBlank

def leadingConnector (s : List Char) : Nat :=
  match connectors.find? fun w => opensWith w s with
  | some w => w.length
  | none => 0

def trailingConnector (s : List Char) : Nat :=
  match connectors.find? fun w => opensWith w.reverse s.reverse with
  | some w => w.length
  | none => 0

/-- A trimmed text without its connectors at the two ends; the blanks beside them stay. -/
def dropConnectors (s : List Char) : List Char :=
  (s.take (s.length - trailingConnector s)).drop (leadingConnector s)

def shortestJoined : Nat := 4

def whereKeyword : String := " WHERE "

def setKeyword : String := " SET "

/-- Writes fragments behind a `WHERE`. A body that is too short for a connector and a condition
stays as it is, unless it is a connector by itself. -/
def writeWhere (fragments : Printer → Printer) (p : Printer) : Printer :=
  let opened := p.write whereKeyword
  let written := fragments opened
  let body := Text.trim (written.tail opened.length)
  if written.isFailed then written
  else if written.length = opened.length then written.truncate p.length
  else if Text.byteLength body < shortestJoined then
    if isConnector body then written.truncate p.length else written
  else if leadingConnector body = 0 ∧ trailingConnector body = 0 then written
  else written.replaceTail opened.length (String.ofList (dropConnectors body))

def writeSet (fragments : Printer → Printer) (p : Printer) : Printer :=
  let opened := p.write setKeyword
  let written := fragments opened
  let body := Text.trim (written.tail opened.length)
  if written.isFailed then written
  else if written.length = opened.length then written.truncate p.length
  else if body.getLast? = some ',' then
    written.replaceTail opened.length (String.ofList body.dropLast)
  else written

end SqlTemplate.Clause
