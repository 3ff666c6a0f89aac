import SqlTemplate.Condition.Function
import SqlTemplate.Condition.Grammar
import SqlTemplate.Error

namespace SqlTemplate

open Text (skipGap)

namespace Condition

def operandFault (s : List Char) : SyntaxFault :=
  if s.head?.any startsName then .reservedWord else .missingOperand

def parse (s : List Char) : Except (SyntaxFault × List Char) Expr :=
  match expression? (skipGap s) with
  | none => .error (operandFault (skipGap s), skipGap s)
  | some e => if (skipGap e.rest).isEmpty then .ok e.value else .error (.leftover, skipGap e.rest)

end Condition

/-- A test that is read, with the functions that it may call. -/
structure Condition where
  source : String
  expr : Expr
  functions : Registry
  deriving Inhabited

namespace Condition

def parseTest (test : String) : Except Error Expr :=
  match parse test.toList with
  | .ok e => .ok e
  | .error (fault, rest) => .error (.testSyntax test fault rest)

def compile (functions : Registry) (test : String) : Except Error Condition := do
  let e ← parseTest test
  match e.calls.find? fun name => !functions.contains name with
  | some name => .error (.unknownFunction name)
  | none => .ok ⟨test, e, functions⟩

end Condition
end SqlTemplate
