import SqlTemplate.Proofs.Decimal
import SqlTemplate.Value.Order
import Mathlib.Order.Compare

namespace SqlTemplate

namespace Binary64

def place? : Binary64 → Option Int
  | .nan => none
  | .infinite true => some (-(overflowUnits : Int))
  | .infinite false => some overflowUnits
  | .finite s m => some (scaled s m)

theorem natAbs_scaled_lt (s : Bool) (m : Magnitude) : (scaled s m).natAbs < overflowUnits := by
  have := m.bounded
  rw [scaled]
  split <;> omega

theorem ofInt_ne_nan (n : Int) : ofInt n ≠ .nan := by
  rw [ofInt, ofRatio, ofUnits]
  intro same
  split at same <;> cases same

theorem compare?_eq (x y : Binary64) :
    x.compare? y = x.place?.bind fun p => y.place?.map fun q => compare p q := by
  have limit := overflowUnits_pos
  cases x with
  | nan => rfl
  | infinite s =>
    cases y with
    | nan => cases s <;> rfl
    | infinite t =>
      have apart : -(overflowUnits : Int) < overflowUnits := by omega
      cases s with
      | true =>
        cases t with
        | true => exact congrArg some (compare_eq_iff_eq.2 rfl).symm
        | false => exact congrArg some (compare_lt_iff_lt.2 apart).symm
      | false =>
        cases t with
        | true => exact congrArg some (compare_gt_iff_gt.2 apart).symm
        | false => exact congrArg some (compare_eq_iff_eq.2 rfl).symm
    | finite t n =>
      have inside := natAbs_scaled_lt t n
      have above : -(overflowUnits : Int) < scaled t n := by omega
      have below : scaled t n < (overflowUnits : Int) := by omega
      cases s with
      | true => exact congrArg some (compare_lt_iff_lt.2 above).symm
      | false => exact congrArg some (compare_gt_iff_gt.2 below).symm
  | finite s m =>
    cases y with
    | nan => rfl
    | infinite t =>
      have inside := natAbs_scaled_lt s m
      have above : -(overflowUnits : Int) < scaled s m := by omega
      have below : scaled s m < (overflowUnits : Int) := by omega
      cases t with
      | true => exact congrArg some (compare_gt_iff_gt.2 above).symm
      | false => exact congrArg some (compare_lt_iff_lt.2 below).symm
    | finite t n => rfl

theorem equals_iff {x y : Binary64} : x.equals y = true ↔ ∃ p ∈ y.place?, p ∈ x.place? := by
  rw [equals, beq_iff_eq, compare?_eq]
  cases x.place? with
  | none => simp
  | some p => cases y.place? <;> simp

theorem equals_comm (x y : Binary64) : x.equals y = y.equals x := by
  rw [Bool.eq_iff_iff, equals_iff, equals_iff]
  exact exists_congr fun p => and_comm

theorem place?_eq_none_iff {x : Binary64} : x.place? = none ↔ x = .nan := by
  cases x with
  | nan => exact ⟨fun _ => rfl, fun _ => rfl⟩
  | infinite s => cases s <;> exact ⟨nofun, nofun⟩
  | finite s m => exact ⟨nofun, nofun⟩

end Binary64

theorem Decimal.toBinary64_ne_nan (d : Decimal) : d.toBinary64 ≠ .nan := by
  obtain ⟨z, finite⟩ := d.exists_units?_toBinary64
  intro same
  rw [same] at finite
  cases finite

theorem Decimal.equals_iff {d e : Decimal} : d.equals e = true ↔ d.toRat = e.toRat := by
  have left : ((Nat.pow 10 d.scale : ℕ) : ℚ) ≠ 0 := by exact_mod_cast d.power_pos.ne'
  have right : ((Nat.pow 10 e.scale : ℕ) : ℚ) ≠ 0 := by exact_mod_cast e.power_pos.ne'
  rw [equals, beq_iff_eq, toRat, toRat, div_eq_div_iff left right]
  exact_mod_cast Iff.rfl

namespace Value

/-- What equality sees of a value: of a number its place, of a decimal the rational number that it
is, of everything else all there is. -/
inductive Sight : Type
  | null | absent
  | boolean : Bool → Sight
  | integer : Int → Sight
  | real : (place : Int) → Sight
  | numeric : ℚ → Sight
  | text : String → Sight
  | date : Date → Sight
  | timestamp : Timestamp → Sight
  | timestampTz : Timestamp → Sight
  | uuid : Uuid → Sight
  | bytea : List UInt8 → Sight
  | list : List Sight → Sight
  | map : List (String × Sight) → Sight
  | present : Sight → Sight

mutual

def sight? : Value → Option Sight
  | .null => some .null
  | .boolean b => some (.boolean b)
  | .integer n => some (.integer n)
  | .real x => x.place?.map .real
  | .numeric d => some (.numeric d.toRat)
  | .text s => some (.text s)
  | .date d => some (.date d)
  | .timestamp t => some (.timestamp t)
  | .timestampTz t => some (.timestampTz t)
  | .uuid u => some (.uuid u)
  | .bytea bytes => some (.bytea bytes)
  | .list items => (sightOfItems? items).map .list
  | .map entries => (sightOfEntries? entries).map .map
  | .absent => some .absent
  | .present v => (sight? v).map .present

def sightOfItems? : List Value → Option (List Sight)
  | [] => some []
  | v :: rest => (sight? v).bind fun s => (sightOfItems? rest).map (s :: ·)

def sightOfEntries? : List (String × Value) → Option (List (String × Sight))
  | [] => some []
  | (key, v) :: rest => (sight? v).bind fun s => (sightOfEntries? rest).map ((key, s) :: ·)

end

mutual

theorem equals_iff (a b : Value) : a.equals b = true ↔ ∃ s ∈ b.sight?, s ∈ a.sight? := by
  cases a with
  | real x => cases b <;> simp [equals, sight?, Binary64.equals_iff]
  | numeric d => cases b <;> simp [equals, sight?, Decimal.equals_iff]
  | list items => cases b <;> simp [equals, sight?, equalItems_iff]
  | map entries => cases b <;> simp [equals, sight?, equalEntries_iff]
  | present v => cases b <;> simp [equals, sight?, equals_iff v]
  | _ => cases b <;> simp [equals, sight?]

theorem equalItems_iff (as bs : List Value) :
    equalItems as bs = true ↔ ∃ s ∈ sightOfItems? bs, s ∈ sightOfItems? as := by
  cases as with
  | nil => cases bs <;> simp [equalItems, sightOfItems?, Option.bind_eq_some_iff]
  | cons a as =>
    cases bs with
    | nil => simp [equalItems, sightOfItems?, Option.bind_eq_some_iff]
    | cons b bs =>
      rw [equalItems, Bool.and_eq_true, equals_iff a b, equalItems_iff as bs, sightOfItems?,
        sightOfItems?]
      cases a.sight? <;> cases b.sight? <;> cases sightOfItems? as <;>
        cases sightOfItems? bs <;> simp

theorem equalEntries_iff (as bs : List (String × Value)) :
    equalEntries as bs = true ↔ ∃ s ∈ sightOfEntries? bs, s ∈ sightOfEntries? as := by
  match as, bs with
  | [], [] => simp [equalEntries, sightOfEntries?]
  | [], (l, b) :: bs => simp [equalEntries, sightOfEntries?, Option.bind_eq_some_iff]
  | (k, a) :: as, [] => simp [equalEntries, sightOfEntries?, Option.bind_eq_some_iff]
  | (k, a) :: as, (l, b) :: bs =>
    rw [equalEntries, Bool.and_eq_true, Bool.and_eq_true, beq_iff_eq, equals_iff a b,
      equalEntries_iff as bs, sightOfEntries?, sightOfEntries?]
    cases a.sight? <;> cases b.sight? <;> cases sightOfEntries? as <;>
      cases sightOfEntries? bs <;> simp

end

inductive Inside (u : Value) : Value → Prop
  | self : Inside u u
  | item {v items} : v ∈ items → Inside u v → Inside u (.list items)
  | entry {key v entries} : (key, v) ∈ entries → Inside u v → Inside u (.map entries)
  | content {v} : Inside u v → Inside u (.present v)

mutual

theorem sight?_eq_none_iff (v : Value) : v.sight? = none ↔ Inside (.real .nan) v := by
  cases v with
  | real x =>
    rw [sight?, Option.map_eq_none_iff, Binary64.place?_eq_none_iff]
    exact ⟨fun same => same ▸ .self, fun inside => by cases inside; rfl⟩
  | list items =>
    rw [sight?, Option.map_eq_none_iff, sightOfItems?_eq_none_iff]
    exact ⟨fun ⟨_, found, inside⟩ => .item found inside,
      fun inside => by cases inside with | item found inside => exact ⟨_, found, inside⟩⟩
  | map entries =>
    rw [sight?, Option.map_eq_none_iff, sightOfEntries?_eq_none_iff]
    exact ⟨fun ⟨_, _, found, inside⟩ => .entry found inside,
      fun inside => by cases inside with | entry found inside => exact ⟨_, _, found, inside⟩⟩
  | present v =>
    rw [sight?, Option.map_eq_none_iff, sight?_eq_none_iff]
    exact ⟨.content, fun inside => by cases inside; assumption⟩
  | _ => exact ⟨nofun, nofun⟩

theorem sightOfItems?_eq_none_iff (items : List Value) :
    sightOfItems? items = none ↔ ∃ v ∈ items, Inside (.real .nan) v := by
  cases items with
  | nil => simp [sightOfItems?]
  | cons v items =>
    rw [List.exists_mem_cons_iff, ← sight?_eq_none_iff v, ← sightOfItems?_eq_none_iff items,
      sightOfItems?]
    cases v.sight? <;> simp

theorem sightOfEntries?_eq_none_iff (entries : List (String × Value)) :
    sightOfEntries? entries = none ↔ ∃ key v, (key, v) ∈ entries ∧ Inside (.real .nan) v := by
  match entries with
  | [] => simp [sightOfEntries?]
  | (key, v) :: entries =>
    have split : (∃ k w, (k, w) ∈ (key, v) :: entries ∧ Inside (.real .nan) w)
        ↔ Inside (.real .nan) v ∨ ∃ k w, (k, w) ∈ entries ∧ Inside (.real .nan) w := by
      simp only [List.mem_cons, Prod.mk.injEq, or_and_right, exists_or, and_assoc,
        exists_and_left, exists_eq_left]
    rw [split, ← sight?_eq_none_iff v, ← sightOfEntries?_eq_none_iff entries, sightOfEntries?]
    cases v.sight? <;> simp

end

/-- What a test sees of a value: of numbers of all kinds their place, and of both kinds of nil that
they are nil. -/
def seen? (v : Value) : Option Sight :=
  match v.asReal? with
  | some x => x.place?.map .real
  | none => if v.isNil then some .null else v.sight?

theorem isNil_eq_false_of_asReal? {v : Value} {x : Binary64} (number : v.asReal? = some x) :
    v.isNil = false := by
  cases v with
  | integer n | real x | numeric d => rfl
  | _ => cases number

theorem equals_comm (a b : Value) : a.equals b = b.equals a := by
  rw [Bool.eq_iff_iff, equals_iff, equals_iff]
  exact exists_congr fun s => and_comm

theorem agrees_comm (a b : Value) : a.agrees b = b.agrees a := by
  rw [agrees, agrees, equals_comm, Bool.and_comm]
  cases a.asReal? with
  | none => cases b.asReal? <;> rfl
  | some x =>
    cases b.asReal? with
    | none => rfl
    | some y => exact x.equals_comm y

theorem equals_eq_false {a b : Value} {x : Binary64} (left : a.asReal? = some x)
    (right : b.asReal? = none) : a.equals b = false := by
  cases b with
  | integer n | real y | numeric d => cases right
  | _ =>
    cases a with
    | integer n | real y | numeric d => rfl
    | _ => cases left

theorem isNil_of_equals {a b : Value} (same : a.equals b = true) : a.isNil = b.isNil := by
  cases a with
  | null =>
    cases b with
    | null => rfl
    | _ => cases same
  | absent =>
    cases b with
    | absent => rfl
    | _ => cases same
  | _ =>
    cases b with
    | null | absent => cases same
    | _ => rfl

theorem isNil_of_null_mem {v : Value} (h : .null ∈ v.sight?) : v.isNil = true := by
  cases v with
  | null => rfl
  | _ => simp [sight?] at h

theorem real_notMem_seen? {v : Value} (number : v.asReal? = none) (p : Int) :
    .real p ∉ v.seen? := by
  intro h
  rw [seen?, number] at h
  dsimp only at h
  split at h
  · cases h
  · cases v with
    | real x => cases number
    | _ => simp [sight?] at h

theorem agrees_of_asReal? {a b : Value} {x : Binary64} (left : a.asReal? = some x)
    (right : b.asReal? = none) : a.agrees b = true ↔ ∃ s ∈ b.seen?, s ∈ a.seen? := by
  simp only [agrees, left, right, isNil_eq_false_of_asReal? left, equals_eq_false left right]
  refine ⟨nofun, ?_⟩
  rintro ⟨s, found, real⟩
  rw [seen?, left] at real
  obtain ⟨p, -, rfl⟩ := Option.map_eq_some_iff.1 real
  exact absurd found (real_notMem_seen? right p)

theorem agrees_of_isNil {a b : Value} (left : a.asReal? = none) (right : b.asReal? = none)
    (nil : a.isNil = true) : a.agrees b = true ↔ ∃ s ∈ b.seen?, s ∈ a.seen? := by
  simp only [agrees, seen?, left, right, nil, Bool.true_and, if_true]
  cases other : b.isNil with
  | true => simp
  | false =>
    have unequal : a.equals b = false := Bool.eq_false_iff.2 fun same => by
      simp [isNil_of_equals same, other] at nil
    have unseen : .null ∉ b.sight? := fun found => by simp [isNil_of_null_mem found] at other
    simpa [unequal] using unseen

theorem agrees_iff (a b : Value) : a.agrees b = true ↔ ∃ s ∈ b.seen?, s ∈ a.seen? := by
  have turned (h : b.agrees a = true ↔ ∃ s ∈ a.seen?, s ∈ b.seen?) :
      a.agrees b = true ↔ ∃ s ∈ b.seen?, s ∈ a.seen? := by
    rw [agrees_comm, h]
    exact exists_congr fun s => and_comm
  cases left : a.asReal? with
  | some x =>
    cases right : b.asReal? with
    | some y => simp [agrees, seen?, left, right, Binary64.equals_iff]
    | none => exact agrees_of_asReal? left right
  | none =>
    cases right : b.asReal? with
    | some y => exact turned (agrees_of_asReal? right left)
    | none =>
      cases nil : a.isNil with
      | true => exact agrees_of_isNil left right nil
      | false =>
        cases other : b.isNil with
        | true => exact turned (agrees_of_isNil right left other)
        | false => simp [agrees, seen?, left, right, nil, other, equals_iff]

theorem agrees_trans {a b c : Value} (first : a.agrees b = true) (second : b.agrees c = true) :
    a.agrees c = true := by
  obtain ⟨s, inner, outer⟩ := (agrees_iff a b).1 first
  obtain ⟨t, outer', inner'⟩ := (agrees_iff b c).1 second
  obtain rfl := Option.mem_unique inner inner'
  exact (agrees_iff a c).2 ⟨s, outer', outer⟩

theorem eq_real_of_asReal? {v : Value} (h : v.asReal? = some .nan) : v = .real .nan := by
  cases v with
  | integer n => exact absurd (Option.some.inj h) (Binary64.ofInt_ne_nan n)
  | real x => exact congrArg Value.real (Option.some.inj h)
  | numeric d => exact absurd (Option.some.inj h) d.toBinary64_ne_nan
  | _ => cases h

theorem seen?_eq_none_iff (v : Value) : v.seen? = none ↔ Inside (.real .nan) v := by
  cases number : v.asReal? with
  | some x =>
    have unplaced : v.seen? = none ↔ x = .nan := by
      simp only [seen?, number, Option.map_eq_none_iff, Binary64.place?_eq_none_iff]
    rw [unplaced]
    constructor
    · rintro rfl
      exact eq_real_of_asReal? number ▸ .self
    · intro inside
      cases inside with
      | self => exact (Option.some.inj number).symm
      | _ => cases number
  | none =>
    cases nil : v.isNil with
    | false => simp [seen?, number, nil, sight?_eq_none_iff]
    | true =>
      cases v with
      | null | absent => exact ⟨nofun, nofun⟩
      | _ => cases nil

theorem agrees_self_iff (v : Value) : v.agrees v = true ↔ ¬Inside (.real .nan) v := by
  rw [agrees_iff, ← seen?_eq_none_iff]
  cases v.seen? <;> simp

end Value
end SqlTemplate
