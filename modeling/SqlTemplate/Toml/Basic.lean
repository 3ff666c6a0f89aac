import SqlTemplate.Binary64.Basic

namespace SqlTemplate

inductive Toml : Type
  | text : String → Toml
  | integer : Int → Toml
  | real : Binary64 → Toml
  | boolean : Bool → Toml
  | moment : String → Toml
  | array : List Toml → Toml
  | table : List (String × Toml) → Toml
  deriving Inhabited

namespace Toml

inductive Origin : Type
  | header | outer | dotted
  deriving DecidableEq, Repr

inductive Slot : Type
  | value : Toml → Slot
  | table : Origin → List (String × Slot) → Slot
  | tables : List (List (String × Slot)) → Slot
  deriving Inhabited

abbrev Slots := List (String × Slot)

namespace Slots

def put (key : String) (slot : Slot) : Slots → Slots
  | [] => [(key, slot)]
  | (k, s) :: rest => if k = key then (key, slot) :: rest else (k, s) :: put key slot rest

@[simp] theorem lookup_put_self (key : String) (slot : Slot) (slots : Slots) :
    (put key slot slots).lookup key = some slot := by
  induction slots with
  | nil => simp [put]
  | cons entry rest ih =>
    obtain ⟨k, s⟩ := entry
    simp only [put]
    split
    · simp
    · next different => simp [List.lookup_cons, beq_false_of_ne (Ne.symm different), ih]

def updateAt (origin : Origin) (change : Slots → Option Slots) :
    List String → Slots → Option Slots
  | [], slots => change slots
  | key :: path, slots =>
    match slots.lookup key with
    | none => do return put key (.table origin (← updateAt origin change path [])) slots
    | some (.table made inner) =>
      if origin = .dotted ∧ (made = .header ∨ (made = .outer ∧ path.isEmpty)) then none
      else do return put key (.table made (← updateAt origin change path inner)) slots
    | some (.tables (last :: before)) =>
      if origin = .dotted ∧ path.isEmpty then none
      else do return put key (.tables ((← updateAt origin change path last) :: before)) slots
    | some _ => none

def addValue (key : String) (value : Toml) (slots : Slots) : Option Slots :=
  match slots.lookup key with
  | none => some (put key (.value value) slots)
  | some _ => none

def openTable (key : String) (slots : Slots) : Option Slots :=
  match slots.lookup key with
  | none => some (put key (.table .header []) slots)
  | some (.table .outer inner) => some (put key (.table .header inner) slots)
  | some _ => none

def openItem (key : String) (slots : Slots) : Option Slots :=
  match slots.lookup key with
  | none => some (put key (.tables [[]]) slots)
  | some (.tables items) => some (put key (.tables ([] :: items)) slots)
  | some _ => none

mutual

def toTable : Slots → List (String × Toml)
  | [] => []
  | (key, slot) :: rest => (key, toToml slot) :: toTable rest

def toToml : Slot → Toml
  | .value v => v
  | .table _ inner => .table (toTable inner)
  | .tables items => .array (toTables items).reverse

def toTables : List Slots → List Toml
  | [] => []
  | slots :: rest => .table (toTable slots) :: toTables rest

end

end Slots

structure Key where
  path : List String
  last : String
  deriving Inhabited

namespace Key

def ofList? (segments : List String) : Option Key :=
  segments.getLast?.map fun last => ⟨segments.dropLast, last⟩

def add (key : Key) (value : Toml) (slots : Slots) : Option Slots :=
  Slots.updateAt .dotted (Slots.addValue key.last value) key.path slots

end Key
end Toml
end SqlTemplate
