import SqlTemplate.Proofs.Joining

namespace SqlTemplate.Clause

open Text (isAsciiBlank)

/-- The connector that dangles at the front of a text, or nothing. -/
inductive Leads (m : List Char) : List Char → Prop
  | connector (k b t) : m = k ++ b :: t → isConnector k = true → isAsciiBlank b = true → Leads m k
  | none : (∀ k b t, m = k ++ b :: t → isConnector k = true → isAsciiBlank b = false) → Leads m []

inductive Trails (m : List Char) : List Char → Prop
  | connector (t b k) : m = t ++ b :: k → isConnector k = true → isAsciiBlank b = true → Trails m k
  | none : (∀ t b k, m = t ++ b :: k → isConnector k = true → isAsciiBlank b = false) → Trails m []

/-- What a `WHERE` leaves of a text that is written for its body, with the keyword: nothing of a
connector alone; the text as it is where no connector dangles; else the trimmed text without the
connectors that do, and with the blanks beside them. -/
inductive Leaves (written : List Char) : List Char → Prop
  | alone : isConnector (Text.trim written) = true → Leaves written []
  | whole : isConnector (Text.trim written) = false → Leads (Text.trim written) [] →
      Trails (Text.trim written) [] → Leaves written (whereKeyword.toList ++ written)
  | cut (y b x) : isConnector (Text.trim written) = false → Leads (Text.trim written) y →
      Trails (Text.trim written) x → y ≠ [] ∨ x ≠ [] → Text.trim written = y ++ b ++ x →
      Leaves written (whereKeyword.toList ++ b)

variable {m y x written left : List Char}

theorem length_eq_of_leads (h : Leads m y) : y.length = leadingConnector m := by
  cases h with
  | connector _ b t same connector blank => rw [same, leadingConnector_append connector blank]
  | none free => rw [leadingConnector_eq_zero free, List.length_nil]

theorem length_eq_of_trails (h : Trails m x) : x.length = trailingConnector m := by
  cases h with
  | connector t b _ same connector blank => rw [same, trailingConnector_append connector blank]
  | none free => rw [trailingConnector_eq_zero free, List.length_nil]

theorem prefix_of_leads (h : Leads m y) : y <+: m := by
  cases h with
  | connector _ b t same => exact ⟨b :: t, same.symm⟩
  | none => exact List.nil_prefix

theorem suffix_of_trails (h : Trails m x) : x <:+ m := by
  cases h with
  | connector t b _ same => exact ⟨t ++ [b], by simp [same]⟩
  | none => exact List.nil_suffix

theorem exists_leads (m : List Char) : ∃ y, Leads m y := by
  by_cases free : ∀ k b t, m = k ++ b :: t → isConnector k = true → isAsciiBlank b = false
  · exact ⟨[], .none free⟩
  · push Not at free
    obtain ⟨k, b, t, same, connector, blank⟩ := free
    exact ⟨k, .connector k b t same connector (by simpa using blank)⟩

theorem exists_trails (m : List Char) : ∃ x, Trails m x := by
  by_cases free : ∀ t b k, m = t ++ b :: k → isConnector k = true → isAsciiBlank b = false
  · exact ⟨[], .none free⟩
  · push Not at free
    obtain ⟨t, b, k, same, connector, blank⟩ := free
    exact ⟨k, .connector t b k same connector (by simpa using blank)⟩

theorem eq_of_leads {k : List Char} (h : Leads m y) (front : k <+: m)
    (size : k.length = leadingConnector m) : k = y := by
  rw [← length_eq_of_leads h] at size
  have inside := List.prefix_of_prefix_length_le front (prefix_of_leads h) size.le
  exact inside.eq_of_length size

theorem eq_of_trails {k : List Char} (h : Trails m x) (back : k <:+ m)
    (size : k.length = trailingConnector m) : k = x := by
  rw [← length_eq_of_trails h] at size
  have inside := List.suffix_of_suffix_length_le back (suffix_of_trails h) size.le
  exact inside.eq_of_length size

theorem exists_between (first : Leads m y) (last : Trails m x) : ∃ b, m = y ++ b ++ x := by
  obtain ⟨u, b, v, same, front, back, -, -⟩ := connectors_window m
  obtain rfl := eq_of_leads first ⟨b ++ v, by rw [same, List.append_assoc]⟩ front
  obtain rfl := eq_of_trails last ⟨u ++ b, same.symm⟩ back
  exact ⟨b, same⟩

theorem exists_dangling (m : List Char) : ∃ y b x, m = y ++ b ++ x ∧ (∀ k, Leads m k ↔ k = y)
    ∧ ∀ k, Trails m k ↔ k = x := by
  obtain ⟨y, first⟩ := exists_leads m
  obtain ⟨x, last⟩ := exists_trails m
  obtain ⟨b, same⟩ := exists_between first last
  refine ⟨y, b, x, same, fun k => ⟨fun h => ?_, ?_⟩, fun k => ⟨fun h => ?_, ?_⟩⟩
  · exact eq_of_leads first (prefix_of_leads h) (length_eq_of_leads h)
  · rintro rfl
    exact first
  · exact eq_of_trails last (suffix_of_trails h) (length_eq_of_trails h)
  · rintro rfl
    exact last

theorem joinConditions_of_isConnector (alone : isConnector (Text.trim written) = true) :
    joinConditions written = [] := by
  simp only [joinConditions, alone, or_true, if_true]

theorem joinConditions_of_between {b : List Char} (some : written ≠ [])
    (free : isConnector (Text.trim written) = false) (first : Leads (Text.trim written) y)
    (last : Trails (Text.trim written) x) (same : Text.trim written = y ++ b ++ x) :
    joinConditions written
      = whereKeyword.toList ++ if y = [] ∧ x = [] then written else b := by
  have front := length_eq_of_leads first
  have back := length_eq_of_trails last
  simp only [joinConditions, some, free, Bool.false_eq_true, or_self, if_false, ← front, ← back,
    List.length_eq_zero_iff]
  split
  · rfl
  · rw [same] at front back ⊢
    rw [dropConnectors_append front back]

theorem leaves_iff (some : written ≠ []) : Leaves written left ↔ left = joinConditions written := by
  constructor
  · intro h
    cases h with
    | alone connector => exact (joinConditions_of_isConnector connector).symm
    | whole free first last =>
      rw [joinConditions_of_between (b := Text.trim written) some free first last (by simp),
        if_pos ⟨rfl, rfl⟩]
    | cut y b x free first last cut same =>
      rw [joinConditions_of_between some free first last same,
        if_neg fun none => cut.elim (· none.1) (· none.2)]
  · rintro rfl
    cases free : isConnector (Text.trim written) with
    | true =>
      rw [joinConditions_of_isConnector free]
      exact .alone free
    | false =>
      obtain ⟨y, first⟩ := exists_leads (Text.trim written)
      obtain ⟨x, last⟩ := exists_trails (Text.trim written)
      obtain ⟨b, same⟩ := exists_between first last
      rw [joinConditions_of_between some free first last same]
      split
      · next none =>
        obtain ⟨rfl, rfl⟩ := none
        exact .whole free first last
      · next cut => exact .cut y b x free first last (Decidable.not_and_iff_not_or_not.1 cut) same

example : joinConditions "or or".toList = " WHERE  ".toList := by decide

end SqlTemplate.Clause
