import SqlTemplate.Proofs.Pattern

namespace SqlTemplate

theorem Text.not_isBlank_of_ascii {c : Char} (low : 33 ≤ c.toNat) (high : c.toNat ≤ 126) :
    isBlank c = false := by
  simp only [isBlank, Bool.or_eq_false_iff, Bool.and_eq_false_iff, decide_eq_false_iff_not,
    beq_eq_false_iff_ne]
  omega

namespace Directive

open Text (Trimmed trim isBlank)

def missing (d : Directive) (s : List Char) : Nat := d.width.getD 0 - s.length

def number (d : Directive) (sign : Option Char) (body : List Char) : List Char :=
  let missing := d.missing (sign.toList ++ body)
  if d.left then sign.toList ++ body ++ List.replicate missing ' '
  else if d.zero then sign.toList ++ (List.replicate missing '0' ++ body)
  else List.replicate missing ' ' ++ (sign.toList ++ body)

def zeros (d : Directive) (sign : Option Char) (body : List Char) : List Char :=
  if !d.left && d.zero then List.replicate (d.missing (sign.toList ++ body)) '0' else []

def IsSign (c : Char) : Prop := c = '-' ∨ c = '+'

/-- The sign in front of a number: always a minus sign, a plus sign only where asked for. -/
def sign? (d : Directive) (negative : Bool) : Option Char :=
  if negative then some '-' else if d.plus then some '+' else none

variable {d : Directive} {sign : Option Char} {body : List Char}

theorem isSign_of_mem_sign? {negative : Bool} : ∀ c ∈ d.sign? negative, IsSign c := by
  intro c found
  rw [sign?] at found
  split at found
  · exact .inl (Option.some.inj found).symm
  · split at found
    · exact .inr (Option.some.inj found).symm
    · cases found

theorem sign?_eq_plus_iff {negative : Bool} :
    d.sign? negative = some '+' ↔ d.plus = true ∧ negative = false := by
  rw [sign?]
  cases negative <;> cases d.plus <;> simp

theorem sign?_eq_minus_iff {negative : Bool} :
    d.sign? negative = some '-' ↔ negative = true := by
  rw [sign?]
  cases negative <;> cases d.plus <;> simp

theorem length_sign? (d : Directive) (negative : Bool) :
    (d.sign? negative).toList.length = if negative = true ∨ d.plus = true then 1 else 0 := by
  rw [sign?]
  cases negative <;> cases d.plus <;> rfl

theorem signed_eq (d : Directive) (negative : Bool) (body : List Char) :
    d.signed negative (if negative then '-' :: body else body)
      = (d.sign? negative).toList ++ body := by
  rw [signed, sign?]
  cases negative <;> cases d.plus <;> rfl

theorem fill_eq_number (numeric : isNumeric d.verb = true) (signs : ∀ c ∈ sign, IsSign c)
    (unsigned : sign = none → ∀ c ∈ body.head?, ¬IsSign c) :
    d.fill (sign.toList ++ body) = d.number sign body := by
  unfold fill number missing
  rw [numeric, Bool.and_true]
  cases d.left with
  | true => rfl
  | false =>
    cases d.zero with
    | false => rfl
    | true =>
      cases sign with
      | some c =>
        rcases signs c rfl with rfl | rfl
        · rfl
        · rfl
      | none =>
        cases body with
        | nil => rfl
        | cons c body =>
          have other := unsigned rfl c rfl
          simp only [IsSign, not_or] at other
          simp [other]

theorem length_number (d : Directive) (sign : Option Char) (body : List Char) :
    (d.number sign body).length = max (d.width.getD 0) (sign.toList ++ body).length := by
  rw [number, missing]
  split
  · simp only [List.length_append, List.length_replicate]
    omega
  · split
    · simp only [List.length_append, List.length_replicate]
      omega
    · simp only [List.length_append, List.length_replicate]
      omega

theorem isBlank_of_mem_replicate {n : Nat} : ∀ c ∈ List.replicate n ' ', isBlank c = true := by
  intro c found
  rw [List.eq_of_mem_replicate found]
  rfl

theorem exists_zeros (d : Directive) (sign : Option Char) (body : List Char) :
    ∃ n, d.zeros sign body = List.replicate n '0' := by
  rw [zeros]
  split
  · exact ⟨_, rfl⟩
  · exact ⟨0, rfl⟩

theorem eq_of_mem_zeros : ∀ c ∈ d.zeros sign body, c = '0' := by
  obtain ⟨n, zeros⟩ := d.exists_zeros sign body
  rw [zeros]
  exact fun _ => List.eq_of_mem_replicate

theorem IsSign.not_isBlank {c : Char} (h : IsSign c) : isBlank c = false := by
  rcases h with rfl | rfl
  · rfl
  · rfl

theorem trim_number (some : body ≠ []) (signs : ∀ c ∈ sign, IsSign c)
    (inked : ∀ c ∈ body, isBlank c = false) :
    trim (d.number sign body) = sign.toList ++ (d.zeros sign body ++ body) := by
  -- Zeros that fill the width are digits of the number: only spaces are trimmed away.
  have trimmed : Trimmed (sign.toList ++ (d.zeros sign body ++ body)) := by
    apply Text.trimmed_of_inked (by simp [some])
    simp only [List.forall_mem_append]
    refine ⟨fun c found => ?_, fun c found => ?_, inked⟩
    · exact (signs c (Option.mem_toList.1 found)).not_isBlank
    · rw [eq_of_mem_zeros c found]
      rfl
  cases left : d.left with
  | true =>
    have spaced : d.number sign body = [] ++ (sign.toList ++ (d.zeros sign body ++ body)
        ++ List.replicate (d.missing (sign.toList ++ body)) ' ') := by
      simp [number, zeros, left]
    rw [spaced, trimmed.trim_surrounded (by simp) isBlank_of_mem_replicate]
  | false =>
    cases zero : d.zero with
    | true =>
      have filled : d.number sign body = sign.toList ++ (d.zeros sign body ++ body) := by
        simp [number, zeros, left, zero]
      rw [filled, Text.trim_eq_self trimmed.head trimmed.last]
    | false =>
      have spaced : d.number sign body = List.replicate (d.missing (sign.toList ++ body)) ' '
          ++ (sign.toList ++ (d.zeros sign body ++ body) ++ []) := by
        simp [number, zeros, left, zero]
      rw [spaced, trimmed.trim_surrounded isBlank_of_mem_replicate (by simp)]

theorem head?_trim_number_eq_iff {c : Char} (some : body ≠ []) (signs : ∀ c ∈ sign, IsSign c)
    (inked : ∀ c ∈ body, isBlank c = false) (unsigned : ∀ c ∈ body, ¬IsSign c) (h : IsSign c) :
    (trim (d.number sign body)).head? = Option.some c ↔ sign = Option.some c := by
  rw [trim_number some signs inked]
  cases sign with
  | some s => exact Iff.rfl
  | none =>
    refine iff_of_false ?_ nofun
    intro head
    have found : c ∈ d.zeros none body ++ body := List.mem_of_mem_head? head
    rcases List.mem_append.1 found with found | found
    · rw [eq_of_mem_zeros c found] at h
      simp [IsSign] at h
    · exact unsigned c found h

end Directive

theorem formatValue_number {d : Directive.Spelling} {v : Value} {sign : Option Char}
    {body : List Char} (verb : d.verb ∈ v.resolved.kind.verbs) (fits : d.directive.Fits)
    (numeric : Directive.isNumeric d.verb = true) (signs : ∀ c ∈ sign, Directive.IsSign c)
    (unsigned : sign = none → ∀ c ∈ body.head?, ¬Directive.IsSign c)
    (text : d.directive.text v.resolved = .ok (sign.toList ++ body)) :
    formatValue (String.ofList d.text) v
      = .ok (String.ofList (d.directive.number sign body)) := by
  rw [formatValue_text verb fits text, Directive.fill_eq_number numeric signs unsigned]

end SqlTemplate
