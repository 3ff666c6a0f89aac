namespace SqlTemplate

inductive BinaryOp : Type
  | or | and
  | eq | notEq | lt | ltEq | gt | gtEq
  | add | sub | mul | div | mod
  deriving DecidableEq, Repr

inductive UnaryOp : Type
  | not | neg
  deriving DecidableEq, Repr

inductive Connective : Type
  | not | and | or
  deriving DecidableEq, Repr

def BinaryOp.name : BinaryOp → String
  | .or => "Or"
  | .and => "And"
  | .eq => "Eq"
  | .notEq => "NotEq"
  | .lt => "Lt"
  | .ltEq => "LtEq"
  | .gt => "Gt"
  | .gtEq => "GtEq"
  | .add => "Add"
  | .sub => "Sub"
  | .mul => "Mul"
  | .div => "Div"
  | .mod => "Mod"

def UnaryOp.name : UnaryOp → String
  | .not => "Not"
  | .neg => "Neg"

def Connective.symbol : Connective → String
  | .not => "!"
  | .and => "&&"
  | .or => "||"

end SqlTemplate
