import SqlTemplate.Condition.Operator
import SqlTemplate.Text.Quoted
import SqlTemplate.Value.Basic

namespace SqlTemplate

inductive SyntaxFault : Type
  | leftover | missingOperand | reservedWord
  deriving DecidableEq, Repr

inductive EvaluationFault : Type
  | integerOverflow : EvaluationFault
  | undefinedModulo : EvaluationFault
  | notNegatable : Kind → EvaluationFault
  | notBoolean : Connective → Kind → EvaluationFault
  | incomparable : Kind → Kind → EvaluationFault
  | inapplicable : BinaryOp → Kind → Kind → EvaluationFault
  | parametersNotObject : Kind → EvaluationFault
  | sourceFailed : (reason : String) → EvaluationFault
  deriving DecidableEq

inductive FunctionFault : Type
  | noArguments : FunctionFault
  | notContainer : FunctionFault
  | notNullable : (position : Nat) → FunctionFault
  deriving DecidableEq

inductive FormatFault : Type
  | tooWide : FormatFault
  | missingVerb : FormatFault
  | moreVerbs : FormatFault
  | noVerb : FormatFault
  | mismatch : (verb : Char) → Kind → FormatFault
  | unknownVerb : Char → FormatFault
  deriving DecidableEq

inductive Error : Type
  | emptyTest : Error
  | emptyConditional : Error
  | emptyLoop : Error
  | emptyCollectionName : Error
  | emptyPrintName : Error
  | testSyntax : (test : String) → SyntaxFault → (rest : List Char) → Error
  | unknownFunction : (name : String) → Error
  | unterminatedMarker : (position : Nat) → (sql : String) → Error
  | emptyMarker : (position : Nat) → (sql : String) → Error
  | parameterNotFound : (name : String) → Error
  | nilTest : (node : String) → Error
  | nonBooleanTest : Kind → (node : String) → Error
  | unsupportedCollection : Kind → (node : String) → Error
  | printLookup : (name : String) → Error → Error
  | printMissing : (name : String) → Error
  | function : (name : String) → FunctionFault → Error
  | evaluation : EvaluationFault → Error
  | format : FormatFault → (pattern : String) → Error
  | unknownDialect : (name : String) → Error
  | configuration : Error
  | serialization : Error
  deriving DecidableEq

def SyntaxFault.code : SyntaxFault → String
  | .leftover => "Eof"
  | .missingOperand => "Tag"
  | .reservedWord => "Verify"

def SyntaxFault.message (fault : SyntaxFault) (rest : List Char) : String :=
  "Error(Error \x7b input: " ++ String.ofList (Text.Quoted.encode rest)
    ++ ", code: " ++ fault.code ++ " \x7d)"

def EvaluationFault.message : EvaluationFault → String
  | .integerOverflow => "integer overflow"
  | .undefinedModulo => "modulo by zero or overflow"
  | .notNegatable found => "cannot negate " ++ found.name
  | .notBoolean operator found =>
    "operator '" ++ operator.symbol ++ "' expects bool, got " ++ found.name
  | .incomparable left right => "cannot compare " ++ left.name ++ " with " ++ right.name
  | .inapplicable operator left right =>
    "cannot apply " ++ operator.name ++ " to " ++ left.name ++ " and " ++ right.name
  | .parametersNotObject found => "parameters must be a JSON object, got " ++ found.name
  | .sourceFailed reason => reason

def FunctionFault.message : FunctionFault → String
  | .noArguments => "args is empty"
  | .notContainer => "value is not a sequence, array, or map"
  | .notNullable position => "args(" ++ toString position ++ ") is not a nullable value"

def FormatFault.message : FormatFault → String
  | .tooWide => "width or precision over 4096"
  | .missingVerb => "missing verb"
  | .moreVerbs => "more verbs than operands"
  | .noVerb => "no verb for the operand"
  | .mismatch verb found => "%" ++ verb.toString ++ " applied to " ++ found.name
  | .unknownVerb verb => "unknown verb %" ++ verb.toString

namespace Error

def message : Error → String
  | .emptyTest => "if test is empty"
  | .emptyConditional => "if content is empty"
  | .emptyLoop => "contents of foreach is empty"
  | .emptyCollectionName => "collection of foreach is empty"
  | .emptyPrintName => "print value name is empty"
  | .testSyntax test fault rest =>
    "Syntax error in test '" ++ test ++ "': " ++ fault.message rest
  | .unknownFunction name => "Undefined function '" ++ name ++ "'"
  | .unterminatedMarker position sql =>
    "Named parameter error: unterminated parameter marker at " ++ toString position
      ++ " in '" ++ sql ++ "'"
  | .emptyMarker position sql =>
    "Named parameter error: empty parameter name at " ++ toString position
      ++ " in '" ++ sql ++ "'"
  | .parameterNotFound name => "Parameter '" ++ name ++ "' not found"
  | .nilTest node => "result of if expression is nil - " ++ node
  | .nonBooleanTest found node =>
    "result of if expression is not bool, got " ++ found.name ++ " - " ++ node
  | .unsupportedCollection found node =>
    "collection is not slice, array or map, actual is " ++ found.name ++ " - " ++ node
  | .printLookup name cause => "search '" ++ name ++ "' fail, " ++ cause.message
  | .printMissing name => "'" ++ name ++ "' is not found"
  | .function name fault => name ++ "() " ++ fault.message
  | .evaluation fault => "Evaluation error: " ++ fault.message
  | .format fault pattern => "Format error: " ++ fault.message ++ " in '" ++ pattern ++ "'"
  | .unknownDialect name => "Unknown dialect '" ++ name ++ "'"
  | .configuration => "Configuration error"
  | .serialization => "JSON Serialization error"

end Error

theorem exists_of_bind_eq_ok {ε α β : Type} {x : Except ε α} {f : α → Except ε β} {b : β}
    (h : (x >>= f) = .ok b) : ∃ a, x = .ok a ∧ f a = .ok b := by
  cases x with
  | error e => cases h
  | ok a => exact ⟨a, rfl, h⟩

theorem exists_of_map_eq_ok {ε α β : Type} {x : Except ε α} {f : α → β} {b : β}
    (h : x.map f = .ok b) : ∃ a, x = .ok a ∧ f a = b := by
  cases x with
  | error e => cases h
  | ok a => exact ⟨a, rfl, Except.ok.inj h⟩

theorem bind_eq_of_eq_ok {ε α β : Type} {x : Except ε α} {a : α} (h : x = .ok a)
    (f : α → Except ε β) : (x >>= f) = f a := by
  rw [h]
  rfl

end SqlTemplate
