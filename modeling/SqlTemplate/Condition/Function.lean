import SqlTemplate.Error

namespace SqlTemplate

abbrev Function := List Value → Except Error Value

namespace Function

def firstArgument (name : String) : List Value → Except Error Value
  | [] => .error (.function name .noArguments)
  | v :: _ => .ok v.resolved

def size (name : String) : Value → Except Error Nat
  | .list items => .ok items.length
  | .map entries => .ok entries.length
  | .text s => .ok s.length
  | .bytea bytes => .ok bytes.length
  | _ => .error (.function name .notContainer)

def sizeOfFirst (name : String) (args : List Value) : Except Error Nat := do
  size name (← firstArgument name args)

def len : Function := fun args => do return .integer (← sizeOfFirst "len" args)

def isEmpty : Function := fun args => do return .boolean ((← sizeOfFirst "isEmpty" args) == 0)

def isNotEmpty : Function := fun args => do
  return .boolean ((← sizeOfFirst "isNotEmpty" args) != 0)

def absence? : Value → Option Bool
  | .null => some true
  | .absent => some true
  | .present _ => some false
  | _ => none

def absences (name : String) (position : Nat) : List Value → Except Error (List Bool)
  | [] => .ok []
  | v :: rest =>
    match absence? v with
    | none => .error (.function name (.notNullable position))
    | some absent => do return absent :: (← absences name (position + 1) rest)

def allAbsent (name : String) (wanted : Bool) : Function
  | [] => .error (.function name .noArguments)
  | args => do return .boolean ((← absences name 0 args).all (· == wanted))

def isNull : Function := allAbsent "isnull" true

def isNotNull : Function := allAbsent "isnotnull" false

end Function

structure Registry where
  functions : List (String × Function)
  deriving Inhabited

namespace Registry

def empty : Registry := ⟨[]⟩

def builtin : Registry :=
  ⟨[("len", Function.len), ("isEmpty", Function.isEmpty), ("isNotEmpty", Function.isNotEmpty),
    ("isnull", Function.isNull), ("isnotnull", Function.isNotNull)]⟩

def register (r : Registry) (name : String) (f : Function) : Registry :=
  ⟨(name, f) :: r.functions⟩

def get? (r : Registry) (name : String) : Option Function := r.functions.lookup name

def contains (r : Registry) (name : String) : Bool := (r.get? name).isSome

@[simp] theorem get?_register_self (r : Registry) (name : String) (f : Function) :
    (r.register name f).get? name = some f := by
  simp [get?, register]

theorem get?_register_of_ne {name other : String} (h : other ≠ name) (r : Registry)
    (f : Function) : (r.register name f).get? other = r.get? other := by
  simp [get?, register, List.lookup_cons, beq_false_of_ne h]

end Registry
end SqlTemplate
