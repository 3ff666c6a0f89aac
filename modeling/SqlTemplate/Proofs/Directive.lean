import SqlTemplate.Format
import SqlTemplate.Proofs.Reading

namespace SqlTemplate

open Text (Reading Remainder)

def Text.Reading.view {α : Type} {s : List Char} (x : Reading α s) : α × List Char :=
  (x.value, x.rest)

namespace Directive

def Fits (d : Directive) : Prop := d.width.getD 0 ≤ maxWidth ∧ d.precision.getD 0 ≤ maxWidth

instance (d : Directive) : Decidable d.Fits := inferInstanceAs (Decidable (_ ∧ _))

def size? : List Char → Option Nat
  | [] => none
  | digits => some (Nat.ofDigitChars 10 digits 0)

theorem size?_getD (digits : List Char) :
    (size? digits).getD 0 = Nat.ofDigitChars 10 digits 0 := by
  cases digits <;> rfl

/-- A directive behind its percent sign: flags, the digits of a width, and behind a point those of
a precision. The width does not begin with a zero, which would be a flag. -/
structure Spelling where
  flags : List Char
  width : List Char
  precision : Option (List Char)
  verb : Char
  flags_spec : ∀ c ∈ flags, isFlag c = true
  width_spec : ∀ c ∈ width, c.isDigit = true
  width_head : width.head? ≠ some '0'
  precision_spec : ∀ digits ∈ precision, ∀ c ∈ digits, c.isDigit = true

namespace Spelling

def pointed : Option (List Char) → List Char
  | none => []
  | some digits => '.' :: digits

def tail (d : Spelling) : List Char := d.flags ++ (d.width ++ (pointed d.precision ++ [d.verb]))

def text (d : Spelling) : List Char := '%' :: d.tail

def directive (d : Spelling) : Directive :=
  ⟨d.flags.contains '-', d.flags.contains '0', d.flags.contains '+', size? d.width,
    d.precision.map (Nat.ofDigitChars 10 · 0), d.verb⟩

end Spelling

def IsVerb (c : Char) : Prop := isFlag c = false ∧ c.isDigit = false ∧ c ≠ '.'

instance (c : Char) : Decidable (IsVerb c) := inferInstanceAs (Decidable (_ ∧ _))

variable {s t r : List Char}

theorem view_readSize (s : List Char) : (readSize s).map Remainder.view =
    if Nat.ofDigitChars 10 (s.takeWhile Char.isDigit) 0 ≤ maxWidth then
      .ok (size? (s.takeWhile Char.isDigit), s.dropWhile Char.isDigit)
    else .error .tooWide := by
  cases s with
  | nil => rfl
  | cons c s =>
    cases digit : c.isDigit with
    | false => simp [readSize, Text.readRun?, digit, Except.map, Remainder.view, size?]
    | true =>
      simp only [readSize, Text.readRun?, digit, if_true, List.takeWhile_cons_of_pos,
        List.dropWhile_cons_of_pos, size?]
      split <;> rfl

theorem view_readPrecision_point (s : List Char) : (readPrecision ('.' :: s)).map Remainder.view =
    ((readSize s).map Remainder.view).map fun (n, r) => (some (n.getD 0), r) := by
  rw [readPrecision]
  cases readSize s <;> rfl

theorem view_readPrecision_of_ne (h : s.head? ≠ some '.') :
    (readPrecision s).map Remainder.view = .ok (none, s) := by
  cases s with
  | nil => rfl
  | cons c s =>
    have : c ≠ '.' := by simpa using h
    simp [readPrecision, this, Except.map, Remainder.view]

theorem view_read (s : List Char) : (read s).map Reading.view = (do
    let (width, t) ← (readSize (s.dropWhile isFlag)).map Remainder.view
    let (precision, r) ← (readPrecision t).map Remainder.view
    match r with
    | [] => .error .missingVerb
    | verb :: rest => .ok (⟨(s.takeWhile isFlag).contains '-', (s.takeWhile isFlag).contains '0',
        (s.takeWhile isFlag).contains '+', width, precision, verb⟩, rest)) := by
  rw [read]
  cases readSize (s.dropWhile isFlag) with
  | error fault => rfl
  | ok width =>
    cases precision : readPrecision width.rest with
    | error fault => simp [bind, Except.bind, Except.map, Remainder.view, precision]
    | ok places =>
      obtain ⟨n, rest, suffix⟩ := places
      simp only [bind, Except.bind, Except.map, Remainder.view, precision]
      cases rest <;> rfl

theorem view_readSize_append {digits : List Char} (all : ∀ c ∈ digits, c.isDigit = true)
    (stop : ∀ c ∈ r.head?, c.isDigit = false) : (readSize (digits ++ r)).map Remainder.view =
      if Nat.ofDigitChars 10 digits 0 ≤ maxWidth then .ok (size? digits, r)
      else .error .tooWide := by
  obtain ⟨taken, dropped⟩ := Text.takeWhile_append_of_stop all stop
  rw [view_readSize, taken, dropped]

namespace Spelling

variable {d e : Spelling}

theorem tail_append (d : Spelling) (r : List Char) :
    d.tail ++ r = d.flags ++ (d.width ++ (pointed d.precision ++ d.verb :: r)) := by
  simp [tail]

theorem percent_notMem_tail (verb : d.verb ≠ '%') : '%' ∉ d.tail := by
  have flags : '%' ∉ d.flags := fun found => absurd (d.flags_spec _ found) (by decide)
  have width : '%' ∉ d.width := fun found => absurd (d.width_spec _ found) (by decide)
  have places : '%' ∉ pointed d.precision := by
    cases same : d.precision with
    | none => exact List.not_mem_nil
    | some digits =>
      have digits : '%' ∉ digits := fun found =>
        absurd (d.precision_spec digits same _ found) (by decide)
      simp [pointed, digits]
  simp [tail, flags, width, places, verb.symm]

theorem head?_tail_append_ne (verb : d.verb ≠ '%') (r : List Char) :
    (d.tail ++ r).head? ≠ some '%' := by
  have absent := percent_notMem_tail verb
  have some : d.tail ≠ [] := by simp [tail]
  obtain ⟨c, rest, front⟩ := List.exists_cons_of_ne_nil some
  rw [front] at absent ⊢
  intro head
  obtain rfl : c = '%' := Option.some.inj head
  exact absent List.mem_cons_self

theorem not_isDigit_behind_width (verb : IsVerb d.verb) (r : List Char) :
    ∀ c ∈ (pointed d.precision ++ d.verb :: r).head?, c.isDigit = false := by
  cases d.precision with
  | none => simpa [pointed] using verb.2.1
  | some digits => simp [pointed]

theorem not_isFlag_behind_flags (verb : IsVerb d.verb) (r : List Char) :
    ∀ c ∈ (d.width ++ (pointed d.precision ++ d.verb :: r)).head?, isFlag c = false := by
  cases same : d.width with
  | nil =>
    cases d.precision with
    | none => simpa [pointed] using verb.1
    | some digits => simp [pointed, isFlag]
  | cons c width =>
    have digit : c.isDigit = true := d.width_spec c (same ▸ List.mem_cons_self)
    have nonzero : c ≠ '0' := by simpa [same] using d.width_head
    have plus : c ≠ '+' := by
      rintro rfl
      cases digit
    have minus : c ≠ '-' := by
      rintro rfl
      cases digit
    simp [isFlag, nonzero, plus, minus]

theorem view_readPrecision_append (d : Spelling) (verb : IsVerb d.verb) (r : List Char) :
    (readPrecision (pointed d.precision ++ d.verb :: r)).map Remainder.view =
      if d.directive.precision.getD 0 ≤ maxWidth then
        .ok (d.directive.precision, d.verb :: r)
      else .error .tooWide := by
  rw [directive]
  cases same : d.precision with
  | none =>
    have point : (d.verb :: r).head? ≠ some '.' := by simpa using verb.2.2
    simp [pointed, view_readPrecision_of_ne point]
  | some places =>
    have stop : ∀ c ∈ (d.verb :: r).head?, c.isDigit = false := by simpa using verb.2.1
    have size := view_readSize_append (d.precision_spec places same) stop
    rw [pointed, List.cons_append, view_readPrecision_point, size]
    simp only [Option.map_some, Option.getD_some]
    split
    · simp [Except.map, size?_getD]
    · rfl

theorem view_read_tail (d : Spelling) (verb : IsVerb d.verb) (r : List Char) :
    (read (d.tail ++ r)).map Reading.view =
      if d.directive.Fits then .ok (d.directive, r) else .error .tooWide := by
  have flags := not_isFlag_behind_flags verb r
  have width := not_isDigit_behind_width verb r
  obtain ⟨taken, dropped⟩ := Text.takeWhile_append_of_stop d.flags_spec flags
  have fits_iff : d.directive.Fits ↔ Nat.ofDigitChars 10 d.width 0 ≤ maxWidth
      ∧ d.directive.precision.getD 0 ≤ maxWidth := by
    rw [Directive.Fits, ← size?_getD]
    exact Iff.rfl
  rw [view_read, tail_append, taken, dropped, view_readSize_append d.width_spec width]
  simp only [fits_iff]
  by_cases small : Nat.ofDigitChars 10 d.width 0 ≤ maxWidth
  · simp only [small, if_true, true_and, bind, Except.bind, view_readPrecision_append d verb]
    by_cases few : d.directive.precision.getD 0 ≤ maxWidth
    · simp only [few, if_true]
      rfl
    · simp only [few, if_false]
  · simp [small, bind, Except.bind]

theorem view_readSize_eq_ok {n : Option Nat}
    (h : (readSize s).map Remainder.view = .ok (n, r)) :
    n = size? (s.takeWhile Char.isDigit) ∧ r = s.dropWhile Char.isDigit ∧ n.getD 0 ≤ maxWidth := by
  rw [view_readSize] at h
  split at h
  · next small =>
    cases h
    exact ⟨rfl, rfl, (size?_getD _).trans_le small⟩
  · cases h

theorem exists_pointed {n : Option Nat}
    (h : (readPrecision s).map Remainder.view = .ok (n, r)) :
    ∃ precision : Option (List Char), (∀ digits ∈ precision, ∀ c ∈ digits, c.isDigit = true)
      ∧ precision.map (Nat.ofDigitChars 10 · 0) = n ∧ n.getD 0 ≤ maxWidth
      ∧ s = pointed precision ++ r := by
  by_cases point : s.head? = some '.'
  · obtain ⟨t, rfl⟩ := List.head?_eq_some_iff.1 point
    rw [view_readPrecision_point] at h
    cases read : (readSize t).map Remainder.view with
    | error fault =>
      rw [read] at h
      cases h
    | ok x =>
      rw [read] at h
      cases h
      obtain ⟨value, rest, small⟩ := view_readSize_eq_ok read
      refine ⟨some (t.takeWhile Char.isDigit), ?_, ?_, small, ?_⟩
      · rintro digits ⟨⟩ c found
        exact List.mem_takeWhile_imp found
      · rw [value, size?_getD, Option.map_some]
      · rw [rest, pointed, List.cons_append, List.takeWhile_append_dropWhile]
  · rw [view_readPrecision_of_ne point] at h
    cases h
    exact ⟨none, nofun, rfl, Nat.zero_le _, rfl⟩

theorem exists_tail_append {x : Directive} (h : (read s).map Reading.view = .ok (x, r)) :
    ∃ d : Spelling, d.directive = x ∧ x.Fits ∧ s = d.tail ++ r := by
  rw [view_read] at h
  obtain ⟨⟨width, t⟩, sized, h⟩ := exists_of_bind_eq_ok h
  obtain ⟨⟨places, u⟩, placed, h⟩ := exists_of_bind_eq_ok h
  obtain ⟨rfl, rfl, narrow⟩ := view_readSize_eq_ok sized
  obtain ⟨precision, digits, rfl, few, rest⟩ := exists_pointed placed
  have head : ((s.dropWhile isFlag).takeWhile Char.isDigit).head? ≠ some '0' := by
    rw [List.head?_takeWhile]
    intro zero
    have flag := Text.head?_dropWhile_eq_false (Option.filter_eq_some_iff.1 zero).1
    cases flag
  cases u with
  | nil => cases h
  | cons verb u =>
    cases h
    refine ⟨⟨s.takeWhile isFlag, (s.dropWhile isFlag).takeWhile Char.isDigit, precision, verb,
      fun _ => List.mem_takeWhile_imp, fun _ => List.mem_takeWhile_imp, head, digits⟩, rfl,
      ⟨narrow, few⟩, ?_⟩
    rw [tail_append, ← rest, List.takeWhile_append_dropWhile, List.takeWhile_append_dropWhile]

theorem eq_of_append_eq {p : Char → Bool} {run run' : List Char} (all : ∀ c ∈ run, p c = true)
    (all' : ∀ c ∈ run', p c = true) (stop : ∀ c ∈ r.head?, p c = false)
    (stop' : ∀ c ∈ t.head?, p c = false) (h : run ++ r = run' ++ t) : run = run' ∧ r = t := by
  obtain ⟨taken, dropped⟩ := Text.takeWhile_append_of_stop all stop
  obtain ⟨taken', dropped'⟩ := Text.takeWhile_append_of_stop all' stop'
  rw [h] at taken dropped
  exact ⟨taken.symm.trans taken', dropped.symm.trans dropped'⟩

theorem eq_of_pointed_append (hd : IsVerb d.verb) (he : IsVerb e.verb)
    (h : pointed d.precision ++ d.verb :: r = pointed e.precision ++ e.verb :: t) :
    d.precision = e.precision ∧ d.verb :: r = e.verb :: t := by
  cases here : d.precision with
  | none =>
    cases there : e.precision with
    | none => exact ⟨rfl, by simpa [here, there, pointed] using h⟩
    | some places =>
      have point : d.verb = '.' := by simpa [here, there, pointed] using congrArg List.head? h
      exact absurd point hd.2.2
  | some digits =>
    cases there : e.precision with
    | none =>
      have point : '.' = e.verb := by simpa [here, there, pointed] using congrArg List.head? h
      exact absurd point.symm he.2.2
    | some places =>
      rw [here, there] at h
      obtain ⟨same, rest⟩ := eq_of_append_eq (d.precision_spec digits here)
        (e.precision_spec places there) (by simpa using hd.2.1) (by simpa using he.2.1)
        (List.cons.inj h).2
      exact ⟨congrArg some same, rest⟩

theorem eq_of_tail_append (hd : IsVerb d.verb) (he : IsVerb e.verb)
    (h : d.tail ++ r = e.tail ++ t) : d = e ∧ r = t := by
  rw [tail_append, tail_append] at h
  obtain ⟨flags, h⟩ := eq_of_append_eq d.flags_spec e.flags_spec
    (not_isFlag_behind_flags hd r) (not_isFlag_behind_flags he t) h
  obtain ⟨width, h⟩ := eq_of_append_eq d.width_spec e.width_spec
    (not_isDigit_behind_width hd r) (not_isDigit_behind_width he t) h
  obtain ⟨precision, h⟩ := eq_of_pointed_append hd he h
  obtain ⟨verb, rest⟩ := List.cons.inj h
  refine ⟨?_, rest⟩
  cases d
  cases e
  simp only at flags width precision verb
  subst flags width precision verb
  rfl

end Spelling

end Directive
end SqlTemplate
