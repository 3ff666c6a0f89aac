import SqlTemplate.Value.Basic

namespace SqlTemplate

inductive Elements : Type
  | sequence : List Value → (position : Nat) → Elements
  | bytes : List UInt8 → (position : Nat) → Elements
  | mapping : List (String × Value) → Elements

namespace Elements

def ofValue? (v : Value) : Option Elements :=
  match v.resolved with
  | .list items => some (.sequence items 0)
  | .bytea bs => some (.bytes bs 0)
  | .map entries => some (.mapping entries)
  | _ => none

def next? : Elements → Option ((Value × Value) × Elements)
  | .sequence (v :: rest) n => some ((.integer n, v), .sequence rest (n + 1))
  | .bytes (b :: rest) n => some ((.integer n, .integer b.toNat), .bytes rest (n + 1))
  | .mapping ((key, v) :: rest) => some ((.text key, v), .mapping rest)
  | _ => none

def length : Elements → Nat
  | .sequence items _ => items.length
  | .bytes bs _ => bs.length
  | .mapping entries => entries.length

def isEmpty (e : Elements) : Bool := e.length == 0

def advance : Nat → Elements → Elements
  | 0, e => e
  | j + 1, e => match e.next? with
    | some (_, rest) => advance j rest
    | none => e

variable {e rest : Elements} {pair : Value × Value}

theorem length_of_next? (h : e.next? = some (pair, rest)) : e.length = rest.length + 1 := by
  match e with
  | .sequence (_ :: _) _ | .bytes (_ :: _) _ | .mapping (_ :: _) => cases h; rfl
  | .sequence [] _ | .bytes [] _ | .mapping [] => cases h

theorem next?_eq_none_iff : e.next? = none ↔ e.length = 0 := by
  match e with
  | .sequence (_ :: _) _ | .bytes (_ :: _) _ | .mapping (_ :: _) => simp [next?, length]
  | .sequence [] _ | .bytes [] _ | .mapping [] => simp [next?, length]

def toList (e : Elements) : List (Value × Value) :=
  match _h : e.next? with
  | some (pair, rest) => pair :: rest.toList
  | none => []
termination_by e.length
decreasing_by
  rw [length_of_next? _h]
  exact Nat.lt_succ_self _

theorem toList_of_next? (h : e.next? = some (pair, rest)) : e.toList = pair :: rest.toList := by
  rw [toList]
  split
  · next same =>
    cases same.symm.trans h
    rfl
  · next none => cases none.symm.trans h

theorem toList_of_next?_none (h : e.next? = none) : e.toList = [] := by
  rw [toList]
  split
  · next some => cases some.symm.trans h
  · rfl

theorem toList_sequence (items : List Value) (n : Nat) :
    (sequence items n).toList = Value.numbered n items := by
  induction items generalizing n with
  | nil => exact toList_of_next?_none rfl
  | cons v rest ih => rw [toList_of_next? rfl, ih, Value.numbered]

theorem toList_bytes (bs : List UInt8) (n : Nat) :
    (bytes bs n).toList = Value.numbered n (bs.map fun b => .integer b.toNat) := by
  induction bs generalizing n with
  | nil => exact toList_of_next?_none rfl
  | cons b rest ih => rw [toList_of_next? rfl, ih, List.map_cons, Value.numbered]

theorem toList_mapping (entries : List (String × Value)) :
    (mapping entries).toList = entries.map fun (key, v) => (.text key, v) := by
  induction entries with
  | nil => exact toList_of_next?_none rfl
  | cons entry rest ih => rw [toList_of_next? rfl, ih, List.map_cons]

theorem length_toList (e : Elements) : e.toList.length = e.length := by
  cases h : e.next? with
  | none => rw [toList_of_next?_none h, next?_eq_none_iff.1 h, List.length_nil]
  | some found =>
    obtain ⟨pair, rest⟩ := found
    rw [toList_of_next? h, List.length_cons, length_toList rest, length_of_next? h]
termination_by e.length
decreasing_by
  rw [length_of_next? h]
  exact Nat.lt_succ_self _

theorem toList_advance (j : Nat) (e : Elements) : (e.advance j).toList = e.toList.drop j := by
  induction j generalizing e with
  | zero => rfl
  | succ j ih =>
    cases h : e.next? with
    | none => rw [advance, h, toList_of_next?_none h, List.drop_nil]
    | some found =>
      obtain ⟨pair, rest⟩ := found
      rw [advance, h, toList_of_next? h, List.drop_succ_cons]
      exact ih rest

theorem length_advance (j : Nat) (e : Elements) : (e.advance j).length = e.length - j := by
  rw [← length_toList, toList_advance, List.length_drop, length_toList]

theorem isEmpty_iff : e.isEmpty = true ↔ e.next? = none := by
  rw [isEmpty, beq_iff_eq, next?_eq_none_iff]

end Elements

namespace Value

theorem elements?_eq (v : Value) : v.elements? = (Elements.ofValue? v).map Elements.toList := by
  rw [elements?, Elements.ofValue?]
  cases v.resolved with
  | list items => exact congrArg some (Elements.toList_sequence items 0).symm
  | bytea bs => exact congrArg some (Elements.toList_bytes bs 0).symm
  | map entries => exact congrArg some (Elements.toList_mapping entries).symm
  | null | boolean | integer | real | numeric | text | date | timestamp | timestampTz | uuid
  | absent | present => rfl

theorem map_fst_numbered (start : Nat) (items : List Value) :
    (numbered start items).map Prod.fst
      = (List.range' start items.length).map fun i => .integer i := by
  induction items generalizing start with
  | nil => rfl
  | cons v rest ih =>
    rw [numbered, List.map_cons, ih, List.length_cons, List.range'_succ, List.map_cons]

theorem length_numbered (start : Nat) (items : List Value) :
    (numbered start items).length = items.length := by
  have keys := congrArg List.length (map_fst_numbered start items)
  rwa [List.length_map, List.length_map, List.length_range'] at keys

theorem exists_of_mem_numbered {start : Nat} {items : List Value} {key element : Value}
    (h : (key, element) ∈ numbered start items) :
    ∃ i, key = .integer (start + i : Nat) ∧ items[i]? = some element := by
  induction items generalizing start with
  | nil => cases h
  | cons v rest ih =>
    rcases List.mem_cons.1 h with same | h
    · cases same
      exact ⟨0, rfl, rfl⟩
    · obtain ⟨i, rfl, found⟩ := ih h
      exact ⟨i + 1, by rw [Nat.add_right_comm]; rfl, found⟩

theorem elements?_cases {v : Value} {elements : List (Value × Value)}
    (h : v.elements? = some elements) :
    (∃ items, v.resolved = .list items ∧ elements = numbered 0 items)
    ∨ (∃ bs, v.resolved = .bytea bs ∧ elements = numbered 0 (bs.map fun b => .integer b.toNat))
    ∨ ∃ entries, v.resolved = .map entries
      ∧ elements = entries.map fun (key, v) => (.text key, v) := by
  rw [elements?] at h
  cases shape : v.resolved with
  | list items =>
    rw [shape] at h
    exact .inl ⟨items, rfl, (Option.some.inj h).symm⟩
  | bytea bs =>
    rw [shape] at h
    exact .inr (.inl ⟨bs, rfl, (Option.some.inj h).symm⟩)
  | map entries =>
    rw [shape] at h
    exact .inr (.inr ⟨entries, rfl, (Option.some.inj h).symm⟩)
  | null | boolean | integer | real | numeric | text | date | timestamp | timestampTz | uuid
  | absent | present =>
    rw [shape] at h
    cases h

end Value
end SqlTemplate
