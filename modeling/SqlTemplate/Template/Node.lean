import SqlTemplate.Condition.Parser
import SqlTemplate.MarkedText
import SqlTemplate.Template.Tree

namespace SqlTemplate

abbrev Template := Tree String String

abbrev Node := Tree MarkedText Condition

namespace Node

def describe (node : Node) : String := Tree.describe MarkedText.source Condition.source node

def describeAll (nodes : List Node) : String :=
  Tree.describeAll MarkedText.source Condition.source nodes

end Node

namespace Template

def guard (functions : Registry) (test : String) (body : List Node) : Except Error Condition :=
  if (Text.trim test.toList).isEmpty then .error .emptyTest
  else if body.isEmpty then .error .emptyConditional
  else Condition.compile functions test

/-- A body in the one place that a branch or a default has for it: several nodes stand there in a
sequence. -/
def slot : List Node → List Node
  | [] => []
  | [node] => [node]
  | first :: second :: rest => [.sequence (first :: second :: rest)]

@[simp] theorem slot_singleton (node : Node) : slot [node] = [node] := rfl

def guardAll (functions : Registry) :
    List (String × List Node) → Except Error (List (Condition × List Node))
  | [] => .ok []
  | (test, body) :: rest => do
    let condition ← guard functions test body
    return (condition, slot body) :: (← guardAll functions rest)

def orDefault (name fallback : String) : String := if name.isEmpty then fallback else name

def loopNode (loop : Loop) (body : List Node) : Except Error Node :=
  if body.isEmpty then .error .emptyLoop
  else if loop.collection.isEmpty then .error .emptyCollectionName
  else .ok (.forEach { loop with
    item := orDefault loop.item "item", index := orDefault loop.index "index" } body)

def printNode (p : Print) : Except Error Node :=
  if p.name.isEmpty then .error .emptyPrintName
  else .ok (.print { p with format := p.format.filter (!·.isEmpty) })

mutual

def build (functions : Registry) : Template → Except Error Node
  | .text sql => do return .text (← MarkedText.ofText? sql)
  | .conditional test body => do
    let body ← buildAll functions body
    return .conditional (← guard functions test body) (slot body)
  | .choose branches otherwise => do
    let branches ← buildBranches functions branches
    let otherwise ← buildAll functions otherwise
    return .choose (← guardAll functions branches) (slot otherwise)
  | .forEach loop body => do loopNode loop (← buildAll functions body)
  | .whereClause body => do return .whereClause (← buildAll functions body)
  | .setClause body => do return .setClause (← buildAll functions body)
  | .print p => printNode p
  | .sequence body => do return .sequence (← buildAll functions body)

def buildAll (functions : Registry) : List Template → Except Error (List Node)
  | [] => .ok []
  | template :: rest => do
    let node ← build functions template
    return node :: (← buildAll functions rest)

def buildBranches (functions : Registry) :
    List (String × List Template) → Except Error (List (String × List Node))
  | [] => .ok []
  | (test, body) :: rest => do
    let body ← buildAll functions body
    return (test, body) :: (← buildBranches functions rest)

end

end Template
end SqlTemplate
