import SqlTemplate.Proofs.Outline

namespace SqlTemplate

namespace MarkedText

/-- `Reads s t`: the text `s` is read as `t`, wherever it starts. -/
inductive Reads : List Char → MarkedText → Prop
  | plain {s} : splitOpening? s = none → Reads s ⟨String.ofList s, []⟩
  | marker {s before after raw behind more} : splitOpening? s = some (before, after) →
      splitClosing? after = some (raw, behind) → (Text.trim raw).isEmpty = false →
      Reads behind more →
      Reads s ⟨String.ofList before, (⟨String.ofList raw⟩, more.head) :: more.rest⟩

variable {s front back before after raw behind : List Char} {t : MarkedText}

theorem splitOpening?_cons {c : Char} (h : c ≠ '#' ∨ '\x7b' ∉ s.head?) :
    splitOpening? (c :: s) = (splitOpening? s).map fun (before, after) => (c :: before, after) := by
  cases s with
  | nil => rfl
  | cons d s =>
    have closed : [c, d] ≠ opening := by
      rintro ⟨⟩
      simp at h
    rw [splitOpening?, if_neg closed]

theorem splitOpening?_append_left (plain : '#' ∉ front) : splitOpening? (front ++ s)
    = (splitOpening? s).map fun (before, after) => (front ++ before, after) := by
  induction front with
  | nil => simp
  | cons c front ih =>
    obtain ⟨other, plain⟩ := List.ne_and_not_mem_of_not_mem_cons plain
    rw [List.cons_append, splitOpening?_cons (.inl other.symm), ih plain, Option.map_map]
    rfl

theorem splitOpening?_eq_none (plain : '\x7b' ∉ back) : splitOpening? back = none := by
  induction back with
  | nil => rfl
  | cons c back ih =>
    have inner : '\x7b' ∉ back := fun found => plain (List.mem_cons_of_mem c found)
    have head : '\x7b' ∉ back.head? := fun found => inner (List.mem_of_mem_head? found)
    rw [splitOpening?_cons (.inr head), ih inner]
    rfl

theorem splitOpening?_append_right (found : splitOpening? s = some (before, after))
    (back : List Char) : splitOpening? (s ++ back) = some (before, after ++ back) := by
  induction s generalizing before with
  | nil => cases found
  | cons c s ih =>
    cases s with
    | nil => cases found
    | cons d s =>
      simp only [splitOpening?, List.cons_append] at found ⊢
      split at found
      · next opens =>
        cases found
        rw [if_pos opens]
      · next other =>
        obtain ⟨⟨b, a⟩, later, same⟩ := Option.map_eq_some_iff.1 found
        cases same
        rw [if_neg other, ← List.cons_append, ih later]
        rfl

theorem splitOpening?_append_of_none (absent : splitOpening? s = none) (plain : '\x7b' ∉ back) :
    splitOpening? (s ++ back) = none := by
  induction s with
  | nil => exact splitOpening?_eq_none plain
  | cons c s ih =>
    cases s with
    | nil =>
      have head : '\x7b' ∉ back.head? := fun found => plain (List.mem_of_mem_head? found)
      rw [List.singleton_append, splitOpening?_cons (.inr head), splitOpening?_eq_none plain]
      rfl
    | cons d s =>
      simp only [splitOpening?, List.cons_append] at absent ⊢
      split at absent
      · cases absent
      · next other =>
        rw [if_neg other, ← List.cons_append, ih (Option.map_eq_none_iff.1 absent)]
        rfl

theorem splitClosing?_append_right (closed : splitClosing? s = some (raw, behind))
    (back : List Char) : splitClosing? (s ++ back) = some (raw, behind ++ back) := by
  induction s generalizing raw with
  | nil => cases closed
  | cons c s ih =>
    simp only [splitClosing?, List.cons_append] at closed ⊢
    split at closed
    · next closes =>
      cases closed
      rw [if_pos closes]
    · next other =>
      obtain ⟨⟨r, b⟩, later, same⟩ := Option.map_eq_some_iff.1 closed
      cases same
      rw [if_neg other, ih later]
      rfl

theorem reads_of_scan {position : Nat} {s : List Char} {t : MarkedText}
    (h : scan position s = .ok t) : Reads s t := by
  rw [scan] at h
  split at h
  · next none =>
    cases h
    exact .plain none
  · next before after found =>
    split at h
    · cases h
    · next raw behind closed =>
      split at h
      · cases h
      · next named =>
        simp only [Bind.bind, Except.bind] at h
        split at h
        · cases h
        · next more read =>
          cases h
          have shorter : behind.length < s.length := length_lt_of_split found closed
          exact .marker found closed (by simpa using named) (reads_of_scan read)
termination_by s.length

theorem scan_of_named {position : Nat} (found : splitOpening? s = some (before, after))
    (closed : splitClosing? after = some (raw, behind)) (named : (Text.trim raw).isEmpty = false) :
    scan position s
      = (scan (position + Text.byteLength before + Text.byteLength (opening ++ raw ++ closing))
          behind).map fun more =>
        ⟨String.ofList before, (⟨String.ofList raw⟩, more.head) :: more.rest⟩ := by
  rw [scan]
  split
  · next none => simp [found] at none
  · next again =>
    obtain ⟨rfl, rfl⟩ := by simpa using found.symm.trans again
    split
    · next unclosed => simp [closed] at unclosed
    · next again =>
      obtain ⟨rfl, rfl⟩ := by simpa using closed.symm.trans again
      rw [if_neg (by simp [named])]
      rfl

theorem scan_of_reads (h : Reads s t) (position : Nat) : scan position s = .ok t := by
  induction h generalizing position with
  | plain none =>
    rw [scan]
    split
    · rfl
    · next found => simp [none] at found
  | marker found closed named _ ih =>
    rw [scan_of_named found closed named, ih]
    rfl

theorem ofText?_eq_ok_iff {sql : String} : ofText? sql = .ok t ↔ Reads sql.toList t := by
  rw [ofText?]
  constructor
  · intro h
    split at h
    · next read =>
      cases h
      exact reads_of_scan read
    · cases h
    · cases h
  · intro h
    rw [scan_of_reads h]

def prepend (front : String) (t : MarkedText) : MarkedText := ⟨front ++ t.head, t.rest⟩

def appendTo (back : String) (head : String) : List (Marker × String) → MarkedText
  | [] => ⟨head ++ back, []⟩
  | (m, fragment) :: rest =>
    let more := appendTo back fragment rest
    ⟨head, (m, more.head) :: more.rest⟩

def append (t : MarkedText) (back : String) : MarkedText := appendTo back t.head t.rest

theorem markers_appendTo (back head : String) (rest : List (Marker × String)) :
    (appendTo back head rest).markers = rest.map Prod.fst := by
  induction rest generalizing head with
  | nil => rfl
  | cons fragment rest ih => exact congrArg (fragment.1 :: ·) (ih fragment.2)

theorem withPlaceholders_appendTo (ph : Placeholder) (n : Nat) (back head : String)
    (rest : List (Marker × String)) : (appendTo back head rest).withPlaceholders ph n
      = head ++ restWithPlaceholders ph n rest ++ back := by
  induction rest generalizing head n with
  | nil => simp [appendTo, withPlaceholders, restWithPlaceholders]
  | cons fragment rest ih =>
    have more := ih (n + 1) fragment.2
    rw [withPlaceholders] at more
    simp only [appendTo, withPlaceholders, restWithPlaceholders, String.append_assoc, more]

@[simp] theorem markers_prepend (front : String) (t : MarkedText) :
    (t.prepend front).markers = t.markers := rfl

@[simp] theorem markers_append (t : MarkedText) (back : String) :
    (t.append back).markers = t.markers := markers_appendTo back t.head t.rest

@[simp] theorem withPlaceholders_prepend (ph : Placeholder) (n : Nat) (front : String)
    (t : MarkedText) :
    (t.prepend front).withPlaceholders ph n = front ++ t.withPlaceholders ph n :=
  String.append_assoc

@[simp] theorem withPlaceholders_append (ph : Placeholder) (n : Nat) (t : MarkedText)
    (back : String) : (t.append back).withPlaceholders ph n = t.withPlaceholders ph n ++ back :=
  withPlaceholders_appendTo ph n back t.head t.rest

theorem Reads.prepend {front : String} (plain : '#' ∉ front.toList) (h : Reads s t) :
    Reads (front.toList ++ s) (t.prepend front) := by
  cases h with
  | plain absent =>
    have none : splitOpening? (front.toList ++ s) = none := by
      rw [splitOpening?_append_left plain, absent]
      rfl
    simpa [MarkedText.prepend, String.ofList_append] using Reads.plain none
  | marker found closed named more =>
    have later := (splitOpening?_append_left plain).trans (congrArg _ found)
    simpa [MarkedText.prepend, String.ofList_append] using Reads.marker later closed named more

theorem Reads.append {back : String} (plain : '\x7b' ∉ back.toList) (h : Reads s t) :
    Reads (s ++ back.toList) (t.append back) := by
  induction h with
  | plain absent =>
    have none := splitOpening?_append_of_none absent plain
    simpa [MarkedText.append, appendTo, String.ofList_append] using Reads.plain none
  | marker found closed named _ more =>
    exact .marker (splitOpening?_append_right found _) (splitClosing?_append_right closed _) named
      more

end MarkedText

def Outline.spell : Outline Marker → List Char
  | [] => []
  | .char c :: o => c :: spell o
  | .hole m :: o => MarkedText.opening ++ m.raw.toList ++ MarkedText.closing ++ spell o

namespace Outline

@[simp] theorem spell_append (o q : Outline Marker) : spell (o ++ q) = spell o ++ spell q := by
  induction o with
  | nil => rfl
  | cons x o ih => cases x <;> simp [spell, ih]

@[simp] theorem spell_literal (s : List Char) : spell (literal s) = s := by
  induction s with
  | nil => rfl
  | cons c s ih => exact congrArg (c :: ·) ih

end Outline

namespace MarkedText

def outlineOfRest : List (Marker × String) → Outline Marker
  | [] => []
  | (m, fragment) :: rest => .hole m :: (Outline.literal fragment.toList ++ outlineOfRest rest)

def outline (t : MarkedText) : Outline Marker :=
  Outline.literal t.head.toList ++ outlineOfRest t.rest

theorem fill_outlineOfRest (ph : Placeholder) (n : Nat) (rest : List (Marker × String)) :
    (outlineOfRest rest).fill ph n = (restWithPlaceholders ph n rest).toList := by
  induction rest generalizing n with
  | nil => rfl
  | cons fragment rest ih =>
    simp [outlineOfRest, Outline.fill, Outline.fill_append, restWithPlaceholders, ih]

theorem fill_outline (ph : Placeholder) (n : Nat) (t : MarkedText) :
    t.outline.fill ph n = (t.withPlaceholders ph n).toList := by
  simp [outline, Outline.fill_append, withPlaceholders, fill_outlineOfRest]

theorem Reads.spell_outline {s : List Char} {t : MarkedText} (h : Reads s t) :
    t.outline.spell = s := by
  induction h with
  | plain absent => simp [outline, outlineOfRest]
  | marker found closed _ _ more =>
    rw [outline, Outline.spell_append] at more
    rw [eq_of_splitOpening? found, eq_of_splitClosing? closed, ← more]
    simp [outline, outlineOfRest, Outline.spell]

end MarkedText
end SqlTemplate
