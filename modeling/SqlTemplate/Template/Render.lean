import SqlTemplate.Clause
import SqlTemplate.Condition.Eval
import SqlTemplate.Format
import SqlTemplate.Template.Node

/-!
Rendering: nodes write SQL text and bind values into a printer. An error stops it.
-/

namespace SqlTemplate

structure Context where
  dialect : Dialect
  source : Source

namespace Node

def writeText (ctx : Context) (t : MarkedText) (p : Printer) : Printer :=
  match t.bind ctx.source with
  | .ok values => (p.write (t.withPlaceholders ctx.dialect.placeholder p.index)).push values
  | .error e => p.fail e

/-- Whether the test of a branch holds, which has to be a truth value. The branch is told by its
element notation. -/
def holds (source : Source) (test : Condition) (body : List Node) : Except Error Bool := do
  let shown := Node.describe (.conditional test body)
  match (← test.expr.eval test.functions source).resolved with
  | .boolean b => return b
  | .null => throw (.nilTest shown)
  | v => throw (.nonBooleanTest v.kind shown)

def printText (source : Source) (print : Print) : Except Error String :=
  match source print.name with
  | .error e => .error (.printLookup print.name e)
  | .ok none => .error (.printMissing print.name)
  | .ok (some v) =>
    if v.isNil then .error (.printMissing print.name)
    else match print.format with
      | some pattern => formatValue pattern v
      | none => .ok v.toText

def writePrint (ctx : Context) (print : Print) (p : Printer) : Printer :=
  match printText ctx.source print with
  | .ok s => ((p.write print.before).write s).write print.after
  | .error e => p.fail e

def loopSource (source : Source) (loop : Loop) (key element : Value) : Source :=
  source.bind [(loop.item, element), (loop.index, key)]

/-- The keys and elements that a loop goes through. A collection that is not found or nil has
none; any other value that is no collection is an error, which shows the node. -/
def loopElements (source : Source) (loop : Loop) (shown : String) :
    Except Error (List (Value × Value)) :=
  match source loop.collection with
  | .error e => .error e
  | .ok none => .ok []
  | .ok (some v) =>
    if v.resolved.isNil then .ok []
    else match v.elements? with
      | none => .error (.unsupportedCollection v.resolved.kind shown)
      | some elements => .ok elements

/-- Writes the body of a loop for each element, into a printer of its own, with the separator
before each but the first. -/
def writeElements (ctx : Context) (loop : Loop) (body : Context → Printer → Printer)
    (isFirst : Bool) : List (Value × Value) → Printer → Printer
  | [], p => p.write loop.closing
  | (key, element) :: rest, p =>
    let separated := if isFirst then p else p.write loop.separator
    let inner := { ctx with source := loopSource ctx.source loop key element }
    let written := separated.absorb (body inner separated.child)
    if written.isFailed then written else writeElements ctx loop body false rest written

def writeLoop (ctx : Context) (loop : Loop) (shown : String)
    (body : Context → Printer → Printer) (p : Printer) : Printer :=
  match loopElements ctx.source loop shown with
  | .error e => p.fail e
  | .ok [] => p
  | .ok elements => writeElements ctx loop body true elements (p.write loop.opening)

mutual

def write (ctx : Context) : Node → Printer → Printer
  | .text t, p => writeText ctx t p
  | .conditional test body, p =>
    match holds ctx.source test body with
    | .ok true => writeAll ctx body p
    | .ok false => p
    | .error e => p.fail e
  | .choose branches otherwise, p => writeBranches ctx branches (writeAll ctx otherwise) p
  | .forEach loop body, p =>
    writeLoop ctx loop (Node.describe (.forEach loop body)) (fun inner => writeAll inner body) p
  | .whereClause body, p => Clause.writeWhere (writeAll ctx body) p
  | .setClause body, p => Clause.writeSet (writeAll ctx body) p
  | .print print, p => writePrint ctx print p
  | .sequence body, p => writeAll ctx body p

def writeAll (ctx : Context) : List Node → Printer → Printer
  | [], p => p
  | node :: rest, p =>
    let written := write ctx node p
    if written.isFailed then written else writeAll ctx rest written

def writeBranches (ctx : Context) :
    List (Condition × List Node) → (Printer → Printer) → Printer → Printer
  | [], otherwise, p => otherwise p
  | (test, body) :: rest, otherwise, p =>
    match holds ctx.source test body with
    | .ok true => writeAll ctx body p
    | .ok false => writeBranches ctx rest otherwise p
    | .error e => p.fail e

end

def render (ctx : Context) (nodes : List Node) : Except Error (String × List Value) :=
  (writeAll ctx nodes (Printer.start 0)).finish

def renderEach (ctx : Context) (nodes : List Node) : Except Error (String × List Value) := Id.run do
  let mut p := Printer.start 0
  for node in nodes do
    p := write ctx node p
    if p.isFailed then break
  return p.finish

end Node
end SqlTemplate
