import SqlTemplate.Proofs.Clause
import SqlTemplate.Proofs.Marking

namespace SqlTemplate

theorem eq_or_append_of_append_cons {α : Type} {r u k t : List α} {a b : α}
    (h : r ++ a :: u = k ++ b :: t) (free : a ∉ k) : r = k ∨ ∃ v, r = k ++ b :: v := by
  rcases List.append_eq_append_iff.1 h with ⟨v, rfl, same⟩ | ⟨v, rfl, same⟩
  · cases v with
    | nil => exact .inl (List.append_nil r).symm
    | cons d v =>
      cases same
      simp at free
  · cases v with
    | nil => exact .inl (List.append_nil k)
    | cons d v =>
      cases same
      exact .inr ⟨v, rfl⟩

theorem eq_or_append_of_cons_append {α : Type} {r u k t : List α} {a b : α}
    (h : u ++ a :: r = t ++ b :: k) (free : a ∉ k) : r = k ∨ ∃ v, r = v ++ b :: k := by
  have mirrored : r.reverse ++ a :: u.reverse = k.reverse ++ b :: t.reverse := by
    simpa using congrArg List.reverse h
  rcases eq_or_append_of_append_cons mirrored (mt List.mem_reverse.1 free) with same | ⟨v, same⟩
  · exact .inl (List.reverse_inj.1 same)
  · exact .inr ⟨v.reverse, by simpa using congrArg List.reverse same⟩

namespace Text

theorem Trimmed.trim_append_blank {s : List Char} (h : Trimmed s) : trim (s ++ [' ']) = s := by
  have front : ∀ c ∈ [], isBlank c = true := by simp
  have back : ∀ c ∈ [' '], isBlank c = true := by
    intro c found
    rw [List.mem_singleton.1 found]
    rfl
  exact h.trim_surrounded front back

end Text

namespace Clause

open Text (Trimmed isAsciiBlank)

variable {k r s t : List Char} {b : Char}

/-- A condition that joins with others: it is no connector, and none stands at its ends behind or in
front of a blank. -/
structure Solid (s : List Char) : Prop extends Trimmed s where
  free : isConnector s = false
  front : ∀ k b t, s = k ++ b :: t → isConnector k = true → isAsciiBlank b = false
  back : ∀ t b k, s = t ++ b :: k → isConnector k = true → isAsciiBlank b = false

theorem not_isAsciiBlank_of_isConnector (h : isConnector k = true) :
    ∀ c ∈ k, isAsciiBlank c = false := solid_of_map_toLower (isConnector_iff.1 h) rfl

theorem blank_notMem_of_isConnector (h : isConnector k = true) : ' ' ∉ k := by
  intro found
  cases not_isAsciiBlank_of_isConnector h _ found

theorem eq_of_append_blank {x u : List Char} {c : Char} (same : k ++ b :: t = x ++ c :: u)
    (first : isAsciiBlank b = true) (other : isAsciiBlank c = true)
    (left : ∀ d ∈ k, isAsciiBlank d = false) (right : ∀ d ∈ x, isAsciiBlank d = false) : k = x := by
  have free : b ∉ x := by
    intro inside
    rw [right b inside] at first
    cases first
  rcases eq_or_append_of_append_cons same free with rfl | ⟨v, rfl⟩
  · rfl
  · rw [left c (by simp)] at other
    cases other

theorem eq_of_blank_append {x u : List Char} {c : Char} (same : t ++ b :: k = u ++ c :: x)
    (last : isAsciiBlank b = true) (other : isAsciiBlank c = true)
    (left : ∀ d ∈ k, isAsciiBlank d = false) (right : ∀ d ∈ x, isAsciiBlank d = false) : k = x := by
  have mirrored : k.reverse ++ b :: t.reverse = x.reverse ++ c :: u.reverse := by
    simpa using congrArg List.reverse same
  exact List.reverse_inj.1 (eq_of_append_blank mirrored last other (by simpa using left)
    (by simpa using right))

theorem leadingConnector_eq_zero
    (h : ∀ k b t, s = k ++ b :: t → isConnector k = true → isAsciiBlank b = false) :
    leadingConnector s = 0 := by
  rw [leadingConnector]
  split
  · next w found =>
    have opens := List.find?_some found
    obtain ⟨x, c, t, same, lower, blank⟩ := opensWith_iff.1 opens
    have connector : isConnector x = true :=
      isConnector_iff.2 (lower ▸ List.mem_of_find?_eq_some found)
    rw [h x c t same connector] at blank
    cases blank
  · rfl

theorem leadingConnector_append (connector : isConnector k = true) (blank : isAsciiBlank b = true)
    (t : List Char) : leadingConnector (k ++ b :: t) = k.length := by
  rw [leadingConnector]
  split
  · next w found =>
    have opens := List.find?_some found
    obtain ⟨x, c, u, same, lower, behind⟩ := opensWith_iff.1 opens
    have solid := solid_of_map_toLower (List.mem_of_find?_eq_some found) lower
    obtain rfl : k = x := eq_of_append_blank same blank behind
      (not_isAsciiBlank_of_isConnector connector) solid
    rw [← lower, List.length_map]
  · next none =>
    have opens := opensWith_iff.2 ⟨k, b, t, rfl, rfl, blank⟩
    exact absurd opens (List.find?_eq_none.1 none _ (isConnector_iff.1 connector))

theorem opensWith_reverse_iff {w : List Char} : opensWith w.reverse s.reverse = true ↔
    ∃ t c x, s = t ++ c :: x ∧ x.map Char.toLower = w ∧ isAsciiBlank c = true := by
  rw [opensWith_iff]
  constructor
  · rintro ⟨x, c, t, same, lower, blank⟩
    refine ⟨t.reverse, c, x.reverse, by simpa using congrArg List.reverse same, ?_, blank⟩
    rw [List.map_reverse, lower, List.reverse_reverse]
  · rintro ⟨t, c, x, rfl, rfl, blank⟩
    exact ⟨x.reverse, c, t.reverse, by simp, by simp, blank⟩

theorem trailingConnector_eq_zero
    (h : ∀ t b k, s = t ++ b :: k → isConnector k = true → isAsciiBlank b = false) :
    trailingConnector s = 0 := by
  rw [trailingConnector]
  split
  · next w found =>
    have opens := List.find?_some found
    obtain ⟨t, c, x, same, lower, blank⟩ := opensWith_reverse_iff.1 opens
    have connector : isConnector x = true :=
      isConnector_iff.2 (lower ▸ List.mem_of_find?_eq_some found)
    rw [h t c x same connector] at blank
    cases blank
  · rfl

theorem trailingConnector_append (connector : isConnector k = true) (blank : isAsciiBlank b = true)
    (t : List Char) : trailingConnector (t ++ b :: k) = k.length := by
  rw [trailingConnector]
  split
  · next w found =>
    have opens := List.find?_some found
    obtain ⟨u, c, x, same, lower, behind⟩ := opensWith_reverse_iff.1 opens
    have solid := solid_of_map_toLower (List.mem_of_find?_eq_some found) lower
    obtain rfl : k = x := eq_of_blank_append same blank behind
      (not_isAsciiBlank_of_isConnector connector) solid
    rw [← lower, List.length_map]
  · next none =>
    have opens := opensWith_reverse_iff.2 ⟨t, b, k, rfl, rfl, blank⟩
    exact absurd opens (List.find?_eq_none.1 none _ (isConnector_iff.1 connector))

theorem solid_iff : Solid s ↔ Trimmed s ∧ isConnector s = false ∧ leadingConnector s = 0
    ∧ trailingConnector s = 0 := by
  have some {k : List Char} (connector : isConnector k = true) : k.length ≠ 0 := by
    intro empty
    rw [List.length_eq_zero_iff.1 empty] at connector
    cases connector
  constructor
  · intro h
    exact ⟨h.toTrimmed, h.free, leadingConnector_eq_zero h.front, trailingConnector_eq_zero h.back⟩
  · rintro ⟨trimmed, free, leading, trailing⟩
    refine ⟨trimmed, free, ?_, ?_⟩
    · rintro k b t rfl connector
      rw [← Bool.not_eq_true]
      intro blank
      rw [leadingConnector_append connector blank] at leading
      exact some connector leading
    · rintro t b k rfl connector
      rw [← Bool.not_eq_true]
      intro blank
      rw [trailingConnector_append connector blank] at trailing
      exact some connector trailing

instance : Decidable (Solid s) := decidable_of_iff _ solid_iff.symm

theorem isConnector_eq_false_of_blank (h : ' ' ∈ s) : isConnector s = false := by
  rw [← Bool.not_eq_true]
  exact fun connector => blank_notMem_of_isConnector connector h

theorem notMem_of_isConnector (h : isConnector k = true) {c : Char}
    (other : ∀ w ∈ connectors, c.toLower ∉ w) : c ∉ k := fun found =>
  other _ (isConnector_iff.1 h) (List.mem_map_of_mem found)

theorem not_isBlank_of_toLower_mem {c : Char} {w : List Char} (known : w ∈ connectors)
    (h : c.toLower ∈ w) : Text.isBlank c = false := by
  have letters : ∀ w ∈ connectors, ∀ d ∈ w, Text.isBlank d = false := by
    simp [connectors, Text.isBlank]
  rw [← Bool.not_eq_true]
  intro blank
  have outside : c.toNat < 65 ∨ 90 < c.toNat := by
    simp only [Text.isBlank, Bool.or_eq_true, Bool.and_eq_true, decide_eq_true_eq,
      beq_iff_eq] at blank
    omega
  rw [Text.toLower_of_not_upper outside] at h
  rw [letters w known c h] at blank
  cases blank

theorem trimmed_of_isConnector (h : isConnector k = true) : Trimmed k := by
  have letter : ∀ c ∈ k, Text.isBlank c = false := by
    intro c found
    exact not_isBlank_of_toLower_mem (isConnector_iff.1 h) (List.mem_map_of_mem found)
  refine ⟨?_, ?_, ?_⟩
  · rintro rfl
    cases h
  · exact fun c found => letter c (List.mem_of_mem_head? found)
  · exact fun c found => letter c (List.mem_of_mem_getLast? found)

namespace Solid

theorem front_append (h : Solid r) {u : List Char} (same : r ++ ' ' :: u = k ++ b :: t)
    (connector : isConnector k = true) : isAsciiBlank b = false := by
  rcases eq_or_append_of_append_cons same (blank_notMem_of_isConnector connector) with
    rfl | ⟨v, inside⟩
  · rw [h.free] at connector
    cases connector
  · exact h.front k b v inside connector

theorem back_append (h : Solid s) {u : List Char} (same : u ++ ' ' :: s = t ++ b :: k)
    (connector : isConnector k = true) : isAsciiBlank b = false := by
  rcases eq_or_append_of_cons_append same (blank_notMem_of_isConnector connector) with
    rfl | ⟨v, inside⟩
  · rw [h.free] at connector
    cases connector
  · exact h.back v b k inside connector

theorem append (first : Solid r) (second : Solid s) (between : List Char) :
    Solid (r ++ (' ' :: between ++ [' ']) ++ s) := by
  refine ⟨first.toTrimmed.append second.toTrimmed _, ?_, ?_, ?_⟩
  · exact isConnector_eq_false_of_blank (by simp)
  · intro k b t same
    exact first.front_append (by simpa using same)
  · intro t b k same
    refine second.back_append (u := r ++ ' ' :: between) (by simpa using same)

end Solid

theorem intercalate_of_append {P : List Char → Prop} {separator : List Char}
    (append : ∀ {r s}, P r → P s → P (r ++ separator ++ s)) {rs : List (List Char)} (some : rs ≠ [])
    (all : ∀ r ∈ rs, P r) : P (separator.intercalate rs) := by
  induction rs with
  | nil => exact absurd rfl some
  | cons r rs ih =>
    obtain ⟨first, others⟩ := List.forall_mem_cons.1 all
    cases rs with
    | nil => simpa using first
    | cons s rs => simpa using append first (ih (by simp) others)

theorem flatMap_eq_intercalate (front back : List Char) {rs : List (List Char)} (some : rs ≠ []) :
    (rs.flatMap fun r => front ++ r ++ back) = front ++ (back ++ front).intercalate rs ++ back := by
  induction rs with
  | nil => exact absurd rfl some
  | cons r rs ih =>
    cases rs with
    | nil => simp
    | cons s rs =>
      rw [List.flatMap_cons, ih (List.cons_ne_nil s rs)]
      simp

theorem joinConditions_of_window {y b x : List Char} (trimmed : Trimmed (y ++ b ++ x))
    (free : isConnector (y ++ b ++ x) = false)
    (first : y.length = leadingConnector (y ++ b ++ x))
    (last : x.length = trailingConnector (y ++ b ++ x)) (cut : y ≠ [] ∨ x ≠ []) :
    joinConditions (y ++ b ++ x ++ [' ']) = whereKeyword.toList ++ b := by
  have ends : ¬ (leadingConnector (y ++ b ++ x) = 0 ∧ trailingConnector (y ++ b ++ x) = 0) := by
    rw [← first, ← last, List.length_eq_zero_iff, List.length_eq_zero_iff]
    exact fun none => cut.elim (· none.1) (· none.2)
  have written : y ++ b ++ x ++ [' '] ≠ [] := by simp
  simp only [joinConditions, trimmed.trim_append_blank, free, written, ends, false_or,
    Bool.false_eq_true, if_false, dropConnectors_append first last]

theorem joinConditions_front (connector : isConnector k = true) (h : Solid s) :
    joinConditions (k ++ [' '] ++ s ++ [' ']) = whereKeyword.toList ++ [' '] ++ s := by
  have same : k ++ [' '] ++ s = k ++ ([' '] ++ s) ++ [] := by simp
  have leading : leadingConnector (k ++ [' '] ++ s) = k.length := by
    simpa using leadingConnector_append connector (b := ' ') rfl s
  have trailing : trailingConnector (k ++ [' '] ++ s) = 0 := by
    refine trailingConnector_eq_zero fun t b x found => ?_
    exact h.back_append (u := k) (by simpa using found)
  have trimmed := (trimmed_of_isConnector connector).append h.toTrimmed [' ']
  have free : isConnector (k ++ [' '] ++ s) = false := isConnector_eq_false_of_blank (by simp)
  rw [same] at leading trailing trimmed free ⊢
  rw [joinConditions_of_window trimmed free leading.symm trailing.symm
    (.inl (trimmed_of_isConnector connector).nonempty), List.append_assoc]

theorem joinConditions_back (connector : isConnector k = true) (h : Solid s) :
    joinConditions (s ++ [' '] ++ k ++ [' ']) = whereKeyword.toList ++ s ++ [' '] := by
  have same : s ++ [' '] ++ k = [] ++ (s ++ [' ']) ++ k := by simp
  have leading : leadingConnector (s ++ [' '] ++ k) = 0 := by
    refine leadingConnector_eq_zero fun x b t found => ?_
    exact h.front_append (u := k) (by simpa using found)
  have trailing : trailingConnector (s ++ [' '] ++ k) = k.length := by
    simpa using trailingConnector_append connector (b := ' ') rfl s
  have trimmed := h.toTrimmed.append (trimmed_of_isConnector connector) [' ']
  have free : isConnector (s ++ [' '] ++ k) = false := isConnector_eq_false_of_blank (by simp)
  rw [same] at leading trailing trimmed free ⊢
  rw [joinConditions_of_window trimmed free leading.symm trailing.symm
    (.inr (trimmed_of_isConnector connector).nonempty), List.append_assoc]

theorem joinAssignments_back (h : Trimmed s) :
    joinAssignments (s ++ [','] ++ [' ']) = setKeyword.toList ++ s := by
  have trimmed : Trimmed (s ++ [','] ) := by
    refine ⟨by simp, ?_, by simp [Text.isBlank]⟩
    intro c found
    rw [List.head?_append_of_ne_nil _ h.nonempty] at found
    exact h.head c found
  have written : s ++ [','] ++ [' '] ≠ [] := by simp
  simp only [joinAssignments, trimmed.trim_append_blank, written, if_false, List.getLast?_concat,
    if_true, List.dropLast_concat]

variable {rs : List (List Char)}

theorem solid_intercalate (all : ∀ r ∈ rs, Solid r) (some : rs ≠ []) (between : List Char) :
    Solid ((' ' :: between ++ [' ']).intercalate rs) :=
  intercalate_of_append (fun first second => first.append second between) some all

theorem trimmed_intercalate (all : ∀ r ∈ rs, Trimmed r) (some : rs ≠ []) (separator : List Char) :
    Trimmed (separator.intercalate rs) :=
  intercalate_of_append (fun first second => first.append second separator) some all

theorem joinConditions_fronts (connector : isConnector k = true) (all : ∀ r ∈ rs, Solid r)
    (some : rs ≠ []) : joinConditions (rs.flatMap fun r => k ++ [' '] ++ r ++ [' '])
      = whereKeyword.toList ++ [' '] ++ (' ' :: k ++ [' ']).intercalate rs := by
  rw [flatMap_eq_intercalate _ _ some]
  exact joinConditions_front connector (solid_intercalate all some k)

theorem joinConditions_backs (connector : isConnector k = true) (all : ∀ r ∈ rs, Solid r)
    (some : rs ≠ []) : joinConditions (rs.flatMap fun r => [] ++ r ++ (' ' :: k ++ [' ']))
      = whereKeyword.toList ++ (' ' :: k ++ [' ']).intercalate rs ++ [' '] := by
  rw [flatMap_eq_intercalate _ _ some,
    ← joinConditions_back connector (solid_intercalate all some k)]
  simp

theorem joinAssignments_backs (all : ∀ r ∈ rs, Trimmed r) (some : rs ≠ []) :
    joinAssignments (rs.flatMap fun r => [] ++ r ++ [',', ' '])
      = setKeyword.toList ++ [',', ' '].intercalate rs := by
  rw [flatMap_eq_intercalate _ _ some, ← joinAssignments_back (trimmed_intercalate all some _)]
  simp

end Clause

namespace Outline

open Clause (Solid isConnector plain_of_isConnector not_isMark_of_isAsciiBlank)

variable {o : Outline Marker} {ph : Placeholder} {n : Nat}

theorem head_fill (h : ∀ c ∈ (spell o).head?, Text.isBlank c = false) :
    ∀ c ∈ (fill ph n o).head?, Text.isBlank c = false := by
  intro c found
  cases o with
  | nil => cases found
  | cons x o =>
    cases x with
    | char d => exact h c found
    | hole m =>
      rw [fill, List.head?_append_of_ne_nil _ (Placeholder.format_ne_nil ph n)] at found
      have mark := Placeholder.isMark_of_mem_format (List.mem_of_mem_head? found)
      exact Placeholder.not_isBlank_of_isMark mark

theorem last_fill (h : ∀ c ∈ (spell o).getLast?, Text.isBlank c = false) :
    ∀ c ∈ (fill ph n o).getLast?, Text.isBlank c = false := by
  intro c found
  cases o using List.reverseRecOn with
  | nil => cases found
  | append_singleton o x =>
    cases x with
    | char d =>
      have same : d = c := by simpa [fill_append, fill] using found
      exact h c (by simp [spell, same])
    | hole m =>
      rw [fill_append, fill, fill, List.append_nil,
        List.getLast?_append_of_ne_nil _ (Placeholder.format_ne_nil ph _)] at found
      have mark := Placeholder.isMark_of_mem_format (List.mem_of_mem_getLast? found)
      exact Placeholder.not_isBlank_of_isMark mark

theorem plain_of_blank_connector {k : List Char} {b : Char} (blank : Text.isAsciiBlank b = true)
    (connector : isConnector k = true) : ∀ c ∈ b :: k, Placeholder.isMark c = false :=
  List.forall_mem_cons.2 ⟨not_isMark_of_isAsciiBlank blank, plain_of_isConnector connector⟩

theorem solid_fill (h : Solid (spell o)) (ph : Placeholder) (n : Nat) : Solid (fill ph n o) := by
  refine ⟨⟨?_, head_fill h.head, last_fill h.last⟩, ?_, ?_, ?_⟩
  · intro empty
    exact h.nonempty (by rw [fill_eq_nil_iff.1 empty, spell])
  · rw [← Bool.not_eq_true]
    intro connector
    obtain ⟨s, rfl⟩ := eq_literal_of_isConnector connector
    have free := h.free
    rw [spell_literal] at free
    rw [fill_literal, free] at connector
    cases connector
  · intro k b t same connector
    rw [← Bool.not_eq_true]
    intro blank
    have plain : ∀ c ∈ k ++ [b], Placeholder.isMark c = false := fun c found =>
      plain_of_blank_connector blank connector c (by simpa [or_comm] using found)
    obtain ⟨q, rfl, -⟩ := eq_literal_append (s := k ++ [b]) (by simpa using same) plain
    have front := h.front k b (spell q) (by simp) connector
    rw [blank] at front
    cases front
  · intro t b k same connector
    rw [← Bool.not_eq_true]
    intro blank
    obtain ⟨q, rfl, -⟩ := eq_append_literal same (plain_of_blank_connector blank connector)
    have back := h.back (spell q) b k (by simp) connector
    rw [blank] at back
    cases back

end Outline
end SqlTemplate
