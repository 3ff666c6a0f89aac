import SqlTemplate.Binary64.Arithmetic
import SqlTemplate.Condition.Expr
import SqlTemplate.Condition.Function
import SqlTemplate.Source
import SqlTemplate.Value.Order

/-!
The value of a test under a source of parameters. A name that is not found counts as null.
Integer arithmetic is exact or an error; all other arithmetic is binary64.
-/

namespace SqlTemplate

def checkedInteger (n : Int) : Except Error Value :=
  if isInteger64 n then .ok (.integer n) else .error (.evaluation .integerOverflow)

def truth (operator : Connective) (v : Value) : Except Error Bool :=
  match v.resolved with
  | .boolean b => .ok b
  | other => .error (.evaluation (.notBoolean operator other.kind))

def negate : Value → Except Error Value
  | .integer n => checkedInteger (-n)
  | .real x => .ok (.real x.neg)
  | .numeric d => .ok (.numeric d.neg)
  | v => .error (.evaluation (.notNegatable v.kind))

def ordered (p : Ordering → Bool) (a b : Value) : Except Error Value :=
  match a.compare? b with
  | some o => .ok (.boolean (p o))
  | none => .error (.evaluation (.incomparable a.kind b.kind))

/-- The remainder of the quotient truncated toward zero; it is not defined for a divisor of
zero, nor where the quotient leaves the range of 64 bits. -/
def remainder (a b : Int) : Except Error Value :=
  if b = 0 ∨ (a = minInteger ∧ b = -1) then .error (.evaluation .undefinedModulo)
  else .ok (.integer (a.tmod b))

def realArithmetic (op : BinaryOp) (f : Binary64 → Binary64 → Binary64) (a b : Value) :
    Except Error Value :=
  match a.asReal?, b.asReal? with
  | some x, some y => .ok (.real (f x y))
  | _, _ => .error (.evaluation (.inapplicable op a.kind b.kind))

def addValues : Value → Value → Except Error Value
  | .text a, .text b => .ok (.text (a ++ b))
  | .integer a, .integer b => checkedInteger (a + b)
  | a, b => realArithmetic .add Binary64.add a b

def subValues : Value → Value → Except Error Value
  | .integer a, .integer b => checkedInteger (a - b)
  | a, b => realArithmetic .sub Binary64.sub a b

def mulValues : Value → Value → Except Error Value
  | .integer a, .integer b => checkedInteger (a * b)
  | a, b => realArithmetic .mul Binary64.mul a b

def modValues : Value → Value → Except Error Value
  | .integer a, .integer b => remainder a b
  | a, b => realArithmetic .mod Binary64.rem a b

def BinaryOp.apply : BinaryOp → Value → Value → Except Error Value
  | .or, a, b => do
    if ← truth .or a then return .boolean true else return .boolean (← truth .or b)
  | .and, a, b => do
    if ← truth .and a then return .boolean (← truth .and b) else return .boolean false
  | .eq, a, b => .ok (.boolean (a.agrees b))
  | .notEq, a, b => .ok (.boolean !(a.agrees b))
  | .lt, a, b => ordered (· == .lt) a b
  | .ltEq, a, b => ordered (· != .gt) a b
  | .gt, a, b => ordered (· == .gt) a b
  | .gtEq, a, b => ordered (· != .lt) a b
  | .add, a, b => addValues a b
  | .sub, a, b => subValues a b
  | .mul, a, b => mulValues a b
  | .div, a, b => realArithmetic .div Binary64.div a b
  | .mod, a, b => modValues a b

namespace Expr

mutual

/-- The value of a test. The right operand of `and` and `or` is evaluated only where the left
one does not decide. -/
def eval (functions : Registry) (source : Source) : Expr → Except Error Value
  | .literal v => .ok v
  | .param path => do return (← source path).getD .null
  | .call name args =>
    match functions.get? name with
    | none => .error (.unknownFunction name)
    | some f => do f (← evalAll functions source args)
  | .unary .not e => do return .boolean !(← truth .not (← eval functions source e))
  | .unary .neg e => do negate (← eval functions source e).resolved
  | .binary .and l r => do
    if ← truth .and (← eval functions source l) then
      return .boolean (← truth .and (← eval functions source r))
    else return .boolean false
  | .binary .or l r => do
    if ← truth .or (← eval functions source l) then return .boolean true
    else return .boolean (← truth .or (← eval functions source r))
  | .binary op l r => do
    let a ← eval functions source l
    let b ← eval functions source r
    op.apply a.resolved b.resolved
  | .within e es => do evalWithin functions source (← eval functions source e) es

def evalAll (functions : Registry) (source : Source) : List Expr → Except Error (List Value)
  | [] => .ok []
  | e :: es => do
    let v ← eval functions source e
    return v :: (← evalAll functions source es)

def evalWithin (functions : Registry) (source : Source) (needle : Value) :
    List Expr → Except Error Value
  | [] => .ok (.boolean false)
  | e :: es => do
    let candidate ← eval functions source e
    if needle.resolved.agrees candidate.resolved then return .boolean true
    else evalWithin functions source needle es

end

theorem eval_binary {op : BinaryOp} (notAnd : op ≠ .and) (notOr : op ≠ .or)
    (functions : Registry) (source : Source) (l r : Expr) :
    (binary op l r).eval functions source = (do
      let a ← l.eval functions source
      let b ← r.eval functions source
      op.apply a.resolved b.resolved) := by
  rw [eval]
  · exact notAnd
  · exact notOr

end Expr
end SqlTemplate
