import SqlTemplate.Condition.Operator
import SqlTemplate.Value.Basic

namespace SqlTemplate

inductive Expr : Type
  | literal : Value → Expr
  | param : (path : String) → Expr
  | call : (name : String) → List Expr → Expr
  | unary : UnaryOp → Expr → Expr
  | binary : BinaryOp → Expr → Expr → Expr
  | within : Expr → List Expr → Expr
  deriving Inhabited

namespace Expr

mutual

def calls : Expr → List String
  | .literal _ => []
  | .param _ => []
  | .call name args => name :: callsAll args
  | .unary _ e => e.calls
  | .binary _ l r => l.calls ++ r.calls
  | .within e es => e.calls ++ callsAll es

def callsAll : List Expr → List String
  | [] => []
  | e :: es => e.calls ++ callsAll es

end

end Expr
end SqlTemplate
