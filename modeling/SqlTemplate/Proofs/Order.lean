import SqlTemplate.Proofs.Comparison
import SqlTemplate.Proofs.Equality

/-!
The order of values. Values of one scale stand at places that are compared with each other, and two
of them stand at one place exactly where equality finds them equal.
-/

namespace SqlTemplate

theorem Date.parts_inj {d e : Date} : d.parts = e.parts ↔ d = e := by
  cases d
  cases e
  simp [parts]

theorem Time.parts_inj {t u : Time} : t.parts = u.parts ↔ t = u := by
  cases t
  cases u
  simp [parts]

theorem Timestamp.parts_inj {t u : Timestamp} : t.parts = u.parts ↔ t = u := by
  refine ⟨fun same => ?_, congrArg parts⟩
  obtain ⟨date, time⟩ := List.append_inj same rfl
  rw [Date.parts_inj] at date
  rw [Time.parts_inj] at time
  cases t
  cases u
  rw [mk.injEq]
  exact ⟨date, time⟩

namespace Value

inductive Scale : Type
  | text | date | timestamp | timestampTz | number
  deriving DecidableEq

def scale? : Value → Option Scale
  | .text _ => some .text
  | .date _ => some .date
  | .timestamp _ => some .timestamp
  | .timestampTz _ => some .timestampTz
  | .integer _ | .numeric _ => some .number
  | .real x => if x = .nan then none else some .number
  | _ => none

inductive Place : Type
  | text : String → Place
  | date : Date → Place
  | timestamp : Timestamp → Place
  | timestampTz : Timestamp → Place
  | number : Int → Place

namespace Place

def scale : Place → Scale
  | .text _ => .text
  | .date _ => .date
  | .timestamp _ => .timestamp
  | .timestampTz _ => .timestampTz
  | .number _ => .number

def compare? : Place → Place → Option Ordering
  | .text a, .text b => some (compare a b)
  | .date a, .date b => some (compare a.parts b.parts)
  | .timestamp a, .timestamp b => some (compare a.parts b.parts)
  | .timestampTz a, .timestampTz b => some (compare a.parts b.parts)
  | .number a, .number b => some (compare a b)
  | _, _ => none

variable {p q r : Place}

theorem compare?_isSome_iff : (p.compare? q).isSome ↔ p.scale = q.scale := by
  cases p <;> cases q <;> simp [compare?, scale]

theorem compare?_swap (p q : Place) : q.compare? p = (p.compare? q).map Ordering.swap := by
  cases p <;> cases q <;> simp [compare?, ← Std.OrientedOrd.eq_swap]

theorem compare?_eq_iff : p.compare? q = some .eq ↔ p = q := by
  cases p <;> cases q <;> simp [compare?, Date.parts_inj, Timestamp.parts_inj]

theorem compare?_lt_trans (first : p.compare? q = some .lt) (second : q.compare? r = some .lt) :
    p.compare? r = some .lt := by
  cases p <;> cases q <;> simp only [compare?, Option.some.injEq, reduceCtorEq] at first <;>
    cases r <;> simp only [compare?, Option.some.injEq, reduceCtorEq] at second ⊢ <;>
    exact Std.TransCmp.lt_trans first second

def sight : Place → Sight
  | .text s => .text s
  | .date d => .date d
  | .timestamp t => .timestamp t
  | .timestampTz t => .timestampTz t
  | .number n => .real n

theorem sight_inj : p.sight = q.sight ↔ p = q := by
  cases p <;> cases q <;> simp [sight]

end Place

def place? : Value → Option Place
  | .text s => some (.text s)
  | .date d => some (.date d)
  | .timestamp t => some (.timestamp t)
  | .timestampTz t => some (.timestampTz t)
  | v => (v.asReal?.bind Binary64.place?).map .number

variable {a b v : Value} {x y : Binary64}

theorem place?_of_asReal? (number : v.asReal? = some x) : v.place? = x.place?.map .number := by
  cases v with
  | integer n | real x | numeric d => rw [place?, number, Option.bind_some] <;> exact nofun
  | _ => cases number

theorem compare?_of_asReal? (left : a.asReal? = some x) (b : Value) :
    a.compare? b = b.asReal?.bind x.compare? := by
  cases a with
  | integer n | real x | numeric d =>
    rw [compare?, left]
    · rfl
    all_goals exact nofun
  | _ => cases left

theorem compare?_eq_none (left : a.asReal? = none) (right : b.asReal? = some y) :
    a.compare? b = none := by
  cases b with
  | integer n | real y | numeric d =>
    cases a with
    | integer n | real y | numeric d => cases left
    | _ => rfl
  | _ => cases right

/-- Values are compared by their places. The cases are whether there is a number on each side, as
numbers are compared apart from all else. -/
theorem compare?_eq (a b : Value) :
    a.compare? b = a.place?.bind fun p => b.place?.bind fun q => p.compare? q := by
  cases left : a.asReal? with
  | some x =>
    rw [compare?_of_asReal? left, place?_of_asReal? left]
    cases right : b.asReal? with
    | some y =>
      rw [place?_of_asReal? right, Option.bind_some, Binary64.compare?_eq]
      cases x.place? <;> cases y.place? <;> rfl
    | none =>
      cases b with
      | integer n | real y | numeric d => cases right
      | _ => cases x.place? <;> rfl
  | none =>
    cases right : b.asReal? with
    | some y =>
      rw [compare?_eq_none left right, place?_of_asReal? right]
      cases a with
      | integer n | real y | numeric d => cases left
      | text | date | timestamp | timestampTz => cases y.place? <;> rfl
      | _ => rfl
    | none =>
      cases a with
      | integer n | real y | numeric d => cases left
      | text | date | timestamp | timestampTz =>
        cases b with
        | integer n | real y | numeric d => cases right
        | _ => rfl
      | _ =>
        rw [compare?, right]
        · rfl
        all_goals exact nofun

theorem scale?_of_asReal? (number : v.asReal? = some x) :
    v.scale? = if x = .nan then none else some .number := by
  cases v with
  | integer n =>
    obtain rfl := Option.some.inj number
    rw [scale?, if_neg (Binary64.ofInt_ne_nan n)]
  | numeric d =>
    obtain rfl := Option.some.inj number
    rw [scale?, if_neg d.toBinary64_ne_nan]
  | real y =>
    obtain rfl := Option.some.inj number
    rw [scale?]
  | _ => cases number

theorem scale?_eq (v : Value) : v.scale? = v.place?.map Place.scale := by
  cases number : v.asReal? with
  | some x =>
    rw [scale?_of_asReal? number, place?_of_asReal? number]
    by_cases nan : x = .nan
    · rw [if_pos nan, Binary64.place?_eq_none_iff.2 nan]
      rfl
    · obtain ⟨p, placed⟩ := Option.ne_none_iff_exists'.1 (mt Binary64.place?_eq_none_iff.1 nan)
      rw [if_neg nan, placed]
      rfl
  | none =>
    cases v with
    | integer n | real x | numeric d => cases number
    | _ => rfl

theorem seen?_of_place? {p : Place} (h : v.place? = some p) : v.seen? = some p.sight := by
  cases number : v.asReal? with
  | some x =>
    rw [place?_of_asReal? number] at h
    obtain ⟨n, placed, rfl⟩ := Option.map_eq_some_iff.1 h
    simp only [seen?, number, placed]
    rfl
  | none =>
    cases v with
    | integer n | real x | numeric d => cases number
    | text | date | timestamp | timestampTz =>
      cases h
      rfl
    | _ => cases h

theorem compare?_isSome_iff :
    (a.compare? b).isSome ↔ ∃ s, a.scale? = some s ∧ b.scale? = some s := by
  rw [compare?_eq, scale?_eq, scale?_eq]
  cases a.place? with
  | none => simp
  | some p =>
    cases b.place? with
    | none => simp
    | some q =>
      rw [Option.bind_some, Option.bind_some, Place.compare?_isSome_iff]
      exact ⟨fun same => ⟨_, rfl, congrArg some same.symm⟩,
        fun ⟨_, left, right⟩ => Option.some.inj (left.trans right.symm)⟩

theorem compare?_eq_some_iff {o : Ordering} : a.compare? b = some o
    ↔ ∃ p q, a.place? = some p ∧ b.place? = some q ∧ p.compare? q = some o := by
  simp only [compare?_eq, Option.bind_eq_some_iff, exists_and_left]

theorem compare?_swap (a b : Value) : b.compare? a = (a.compare? b).map Ordering.swap := by
  rw [compare?_eq, compare?_eq]
  cases a.place? with
  | none => cases b.place? <;> rfl
  | some p =>
    cases b.place? with
    | none => rfl
    | some q => exact p.compare?_swap q

theorem compare?_lt_trans {c : Value} (first : a.compare? b = some .lt)
    (second : b.compare? c = some .lt) : a.compare? c = some .lt := by
  obtain ⟨p, q, left, middle, below⟩ := compare?_eq_some_iff.1 first
  obtain ⟨q', r, middle', right, above⟩ := compare?_eq_some_iff.1 second
  obtain rfl := Option.some.inj (middle.symm.trans middle')
  exact compare?_eq_some_iff.2 ⟨p, r, left, right, Place.compare?_lt_trans below above⟩

theorem agrees_of_compare? {o : Ordering} (h : a.compare? b = some o) :
    a.agrees b = (o == .eq) := by
  obtain ⟨p, q, left, right, order⟩ := compare?_eq_some_iff.1 h
  rw [Bool.eq_iff_iff, agrees_iff, seen?_of_place? left, seen?_of_place? right, beq_iff_eq,
    ← Option.some_inj, ← order, Place.compare?_eq_iff, ← Place.sight_inj]
  simp

def Comparable (a b : Value) : Prop :=
  ∃ s, a.resolved.scale? = some s ∧ b.resolved.scale? = some s

theorem Comparable.symm (h : Comparable a b) : Comparable b a := by
  obtain ⟨s, left, right⟩ := h
  exact ⟨s, right, left⟩

theorem Comparable.trans {c : Value} (first : Comparable a b) (second : Comparable b c) :
    Comparable a c := by
  obtain ⟨s, left, middle⟩ := first
  obtain ⟨t, middle', right⟩ := second
  obtain rfl := Option.some.inj (middle.symm.trans middle')
  exact ⟨s, left, right⟩

theorem inside_resolved_iff (v : Value) :
    Inside (.real .nan) v.resolved ↔ Inside (.real .nan) v := by
  fun_induction resolved v with
  | case1 v ih =>
    rw [ih]
    exact ⟨.content, fun inside => by cases inside; assumption⟩
  | case2 =>
    constructor
    · intro inside
      cases inside
    · intro inside
      cases inside
  | case3 => exact Iff.rfl

end Value

namespace BinaryOp

def between (op : BinaryOp) (a b : Value) : Except Error Value := op.apply a.resolved b.resolved

def Holds (op : BinaryOp) (a b : Value) : Prop := op.between a b = .ok (.boolean true)

def orderings : List BinaryOp := [.lt, .ltEq, .gt, .gtEq]

variable {op : BinaryOp} {verdict : Ordering → Bool} {a b c : Value} {o : Ordering}

theorem between_eq (a b : Value) :
    between .eq a b = .ok (.boolean (a.resolved.agrees b.resolved)) := rfl

theorem holds_eq_iff : Holds .eq a b ↔ a.resolved.agrees b.resolved = true := by
  simp [Holds, between_eq]

theorem between_of_compare? (compares : op.ordering? = some verdict)
    (order : a.resolved.compare? b.resolved = some o) :
    op.between a b = .ok (.boolean (verdict o)) :=
  apply_of_compare? compares (Value.agrees_of_compare? order) order

theorem holds_lt_iff : Holds .lt a b ↔ a.resolved.compare? b.resolved = some .lt := by
  cases order : a.resolved.compare? b.resolved with
  | none => simp [Holds, between, apply, ordered, order]
  | some o => simp [Holds, between_of_compare? (rfl : ordering? .lt = _) order]

theorem exists_between_iff (listed : op ∈ orderings) :
    (∃ v, op.between a b = .ok v) ↔ Value.Comparable a b := by
  rw [Value.Comparable, ← Value.compare?_isSome_iff]
  cases op with
  | lt | ltEq | gt | gtEq =>
    cases order : a.resolved.compare? b.resolved <;> simp [between, apply, ordered, order]
  | _ => exact absurd listed (by decide)

theorem between_of_comparable (h : Value.Comparable a b) : ∃ less same greater : Bool,
    between .lt a b = .ok (.boolean less)
    ∧ between .eq a b = .ok (.boolean same)
    ∧ between .lt b a = .ok (.boolean greater)
    ∧ [less, same, greater].count true = 1
    ∧ between .ltEq a b = .ok (.boolean (less || same))
    ∧ between .gtEq a b = between .ltEq b a
    ∧ between .gt a b = between .lt b a := by
  obtain ⟨o, order⟩ := Option.isSome_iff_exists.1 (Value.compare?_isSome_iff.2 h)
  have turned : b.resolved.compare? a.resolved = some o.swap := by
    rw [Value.compare?_swap, order]
    rfl
  have less := between_of_compare? (rfl : ordering? .lt = _) order
  have same := between_of_compare? (rfl : ordering? .eq = _) order
  have greater := between_of_compare? (rfl : ordering? .lt = _) turned
  refine ⟨_, _, _, less, same, greater, ?_, ?_, ?_, ?_⟩
  · cases o <;> rfl
  · rw [between_of_compare? rfl order]
    cases o <;> rfl
  · rw [between_of_compare? rfl order, between_of_compare? rfl turned]
    cases o <;> rfl
  · rw [between_of_compare? rfl order, between_of_compare? rfl turned]
    cases o <;> rfl

theorem holds_lt_trans (first : Holds .lt a b) (second : Holds .lt b c) : Holds .lt a c :=
  holds_lt_iff.2 (Value.compare?_lt_trans (holds_lt_iff.1 first) (holds_lt_iff.1 second))

theorem holds_eq_trans (first : Holds .eq a b) (second : Holds .eq b c) : Holds .eq a c :=
  holds_eq_iff.2 (Value.agrees_trans (holds_eq_iff.1 first) (holds_eq_iff.1 second))

theorem holds_eq_self_iff (a : Value) : Holds .eq a a ↔ ¬Value.Inside (.real .nan) a := by
  rw [holds_eq_iff, Value.agrees_self_iff, Value.inside_resolved_iff]

/-- The comparisons are one order. What can be ordered falls into scales, within which exactly one
of less, equal and greater is true, and less is transitive. Equality is symmetric and transitive on
all values, and reflexive on those without a NaN in them. -/
theorem comparisons_consistent :
    (∀ functions source l r a b op verdict, ordering? op = some verdict →
      l.eval functions source = .ok a → r.eval functions source = .ok b →
      (Expr.binary op l r).eval functions source = op.between a b)
    ∧ (∀ a b, ∀ op ∈ orderings, (∃ v, op.between a b = .ok v) ↔ Value.Comparable a b)
    ∧ (∀ a b, Value.Comparable a b → Value.Comparable b a)
    ∧ (∀ a b c, Value.Comparable a b → Value.Comparable b c → Value.Comparable a c)
    ∧ (∀ a b, Value.Comparable a b → ∃ less same greater : Bool,
      between .lt a b = .ok (.boolean less)
      ∧ between .eq a b = .ok (.boolean same)
      ∧ between .lt b a = .ok (.boolean greater)
      ∧ [less, same, greater].count true = 1
      ∧ between .ltEq a b = .ok (.boolean (less || same))
      ∧ between .gtEq a b = between .ltEq b a
      ∧ between .gt a b = between .lt b a)
    ∧ (∀ a b c, Holds .lt a b → Holds .lt b c → Holds .lt a c)
    ∧ (∀ a b, ∃ same : Bool, between .eq a b = .ok (.boolean same)
      ∧ between .eq b a = .ok (.boolean same) ∧ between .notEq a b = .ok (.boolean !same))
    ∧ (∀ a b c, Holds .eq a b → Holds .eq b c → Holds .eq a c)
    ∧ ∀ a, Holds .eq a a ↔ ¬Value.Inside (.real .nan) a := by
  refine ⟨?_, fun a b op => exists_between_iff, fun a b => Value.Comparable.symm,
    fun a b c => Value.Comparable.trans, fun a b => between_of_comparable,
    fun a b c => holds_lt_trans, ?_, fun a b c => holds_eq_trans, holds_eq_self_iff⟩
  · intro functions source l r a b op verdict compares left right
    rw [eval_of_ordering? compares, left, right]
    rfl
  · intro a b
    refine ⟨a.resolved.agrees b.resolved, rfl, ?_, rfl⟩
    rw [between_eq, Value.agrees_comm]

theorem comparisons_consistent_mixed :
    let a : Value := .integer 1
    let b : Value := .numeric ⟨false, 15, 1, by decide, by decide⟩
    let c : Value := .present (.real (.ofInt 2))
    Holds .lt a b ∧ Holds .lt b c ∧ Holds .lt a c ∧ Value.Comparable a c := by
  intro a b c
  have first : Holds .lt a b := holds_lt_iff.2 (by decide +kernel)
  have second : Holds .lt b c := holds_lt_iff.2 (by decide +kernel)
  obtain ⟨-, succeeds, -, -, -, less, -⟩ := comparisons_consistent
  have third := less a b c first second
  exact ⟨first, second, third, (succeeds a c .lt (by decide)).1 ⟨_, third⟩⟩

end BinaryOp

end SqlTemplate
