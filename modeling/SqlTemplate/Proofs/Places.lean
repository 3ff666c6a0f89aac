import SqlTemplate.Proofs.Comparison
import SqlTemplate.Proofs.Filling

/-!
Numbers with a fixed count of places. What a directive shows for one is a sign or none and digits
with a point among them, but for the zero below zero: it has its minus sign behind a plus sign that
is asked for.
-/

namespace SqlTemplate

open Condition (IsDigits)

namespace Text

/-- Digits, and behind a point as many of them as there are places. -/
inductive IsPositional : Nat → List Char → Prop
  | whole {digits} : IsDigits digits → IsPositional 0 digits
  | pointed {whole fraction} : IsDigits whole → IsDigits fraction →
      IsPositional fraction.length (whole ++ '.' :: fraction)

variable {places : Nat} {s zeros : List Char}

theorem isDigits_padded (size n : Nat) : IsDigits (padded size n) := by
  refine ⟨List.append_ne_nil_of_right_ne_nil _ Nat.toDigits_ne_nil, fun c found => ?_⟩
  rcases List.mem_append.1 found with zero | digit
  · rw [List.eq_of_mem_replicate zero]
    rfl
  · exact Nat.isDigit_of_mem_toDigits (by decide) (by decide) digit

theorem isPositional_withPlaces (places n : Nat) : IsPositional places (withPlaces places n) := by
  obtain ⟨-, digits⟩ := isDigits_padded (places + 1) n
  have long : places + 1 ≤ (padded (places + 1) n).length := le_length_padded _ n
  rw [withPlaces, pointed]
  split
  · next none =>
    subst none
    exact .whole (isDigits_padded 1 n)
  · next some =>
    generalize padded (places + 1) n = s at *
    have count : (s.drop (s.length - places)).length = places := by
      rw [List.length_drop]
      omega
    have front : IsDigits (s.take (s.length - places)) := by
      refine ⟨List.ne_nil_of_length_pos ?_, fun c found => digits c (List.mem_of_mem_take found)⟩
      rw [List.length_take]
      omega
    have behind : IsDigits (s.drop (s.length - places)) := by
      refine ⟨List.ne_nil_of_length_pos ?_, fun c found => digits c (List.mem_of_mem_drop found)⟩
      rw [count]
      omega
    have positional := IsPositional.pointed front behind
    rwa [count] at positional

theorem IsPositional.nonempty (h : IsPositional places s) : s ≠ [] := by
  cases h with
  | whole digits => exact digits.1
  | pointed _ _ => simp

theorem IsPositional.digit_or_point (h : IsPositional places s) :
    ∀ c ∈ s, c.isDigit = true ∨ c = '.' := by
  cases h with
  | whole digits => exact fun c found => .inl (digits.2 c found)
  | pointed whole fraction =>
    rw [List.forall_mem_append, List.forall_mem_cons]
    exact ⟨fun c found => .inl (whole.2 c found), .inr rfl,
      fun c found => .inl (fraction.2 c found)⟩

theorem IsPositional.not_isBlank (h : IsPositional places s) : ∀ c ∈ s, isBlank c = false := by
  intro c found
  rcases h.digit_or_point c found with digit | rfl
  · obtain ⟨low, high⟩ := Char.isDigit_iff_toNat.1 digit
    exact not_isBlank_of_ascii (le_trans (by decide) low) (high.trans (by decide))
  · rfl

theorem IsPositional.not_isSign (h : IsPositional places s) :
    ∀ c ∈ s, ¬Directive.IsSign c := by
  rintro c found (rfl | rfl)
  · rcases h.digit_or_point _ found with digit | point
    · cases digit
    · cases point
  · rcases h.digit_or_point _ found with digit | point
    · cases digit
    · cases point

theorem IsPositional.append (h : IsPositional places s) (digits : ∀ c ∈ zeros, c.isDigit = true) :
    IsPositional places (zeros ++ s) := by
  have more {t : List Char} (ht : IsDigits t) : IsDigits (zeros ++ t) :=
    ⟨List.append_ne_nil_of_right_ne_nil _ ht.1, List.forall_mem_append.2 ⟨digits, ht.2⟩⟩
  cases h with
  | whole all => exact .whole (more all)
  | pointed whole fraction =>
    rw [← List.append_assoc]
    exact .pointed (more whole) fraction

end Text

namespace Binary64

theorem isNegative_finite (negative : Bool) (m : Magnitude) :
    (finite negative m).isNegative = (negative && m.units != 0) := by
  have order : (finite negative m).compare? (zero false) = some (compare (scaled negative m) 0) :=
    compare?_of_units? rfl rfl
  rw [isNegative, order]
  cases negative with
  | false =>
    have above : ¬scaled false m < 0 := Int.not_lt.2 (Int.natCast_nonneg m.units)
    simp [compare_lt_iff_lt, above]
  | true =>
    have below : scaled true m < 0 ↔ m.units ≠ 0 := by
      rw [scaled, if_pos rfl]
      omega
    by_cases zero : m.units = 0
    · have above := mt below.1 (not_not_intro zero)
      simp [compare_lt_iff_lt, above, zero]
    · simp [compare_lt_iff_lt.2 (below.2 zero), zero]

theorem exists_toFixed (places : Nat) (negative : Bool) (m : Magnitude) :
    ∃ body, Text.IsPositional places body
      ∧ ((finite negative m).toFixed places).toList
        = if negative then '-' :: body else body := by
  rw [toFixed]
  generalize roundQuotient (m.units * Nat.pow 10 places) unitsPerOne = n
  refine ⟨Text.withPlaces places n, Text.isPositional_withPlaces places n, ?_⟩
  rw [String.toList_append, String.toList_ofList]
  cases negative <;> rfl

theorem exists_finite_of_units? {x : Binary64} {z : Int} (h : x.units? = some z) :
    ∃ negative m, x = .finite negative m := by
  cases x with
  | finite negative m => exact ⟨negative, m, rfl⟩
  | nan => cases h
  | infinite negative => cases h

end Binary64

namespace Value

inductive IsFinite : Value → Prop
  | integer {n} : isInteger64 n = true → IsFinite (.integer n)
  | numeric (d) : IsFinite (.numeric d)
  | real (negative m) : IsFinite (.real (.finite negative m))

variable {v : Value}

theorem IsFinite.exists_finite (h : v.IsFinite) :
    ∃ negative m, v.asReal? = some (.finite negative m) := by
  have rational {x : ℚ} (denotes : v.Denotes x) :
      ∃ negative m, v.asReal? = some (.finite negative m) := by
    obtain ⟨u, z, real, units⟩ := denotes.exists_units?
    obtain ⟨negative, m, rfl⟩ := Binary64.exists_finite_of_units? units
    exact ⟨negative, m, real⟩
  cases h with
  | integer bounded => exact rational (.integer bounded)
  | numeric d => exact rational (.numeric d)
  | real negative m => exact ⟨negative, m, rfl⟩

theorem IsFinite.resolved_eq (h : v.IsFinite) : v.resolved = v := by
  cases h <;> rfl

end Value

namespace Directive

def realVerbs : List Char := ['f', 'F']

theorem mem_realVerbs {verb : Char} : verb ∈ realVerbs ↔ verb = 'f' ∨ verb = 'F' := by
  simp [realVerbs]

def places (d : Directive) : Nat := d.precision.getD 6

variable {d : Directive} {v : Value} {negative : Bool} {m : Binary64.Magnitude}

theorem mem_verbs_of_realVerbs {verb : Char} (h : verb ∈ realVerbs) (finite : v.IsFinite) :
    verb ∈ v.kind.verbs := by
  cases finite <;> rcases mem_realVerbs.1 h with rfl | rfl <;> simp [Value.kind, Kind.verbs]

theorem isNumeric_of_realVerbs {verb : Char} (h : verb ∈ realVerbs) : isNumeric verb = true := by
  rcases mem_realVerbs.1 h with rfl | rfl <;> rfl

theorem text_of_realVerbs {x : Binary64} (verb : d.verb ∈ realVerbs) (real : v.asReal? = some x) :
    d.text v = .ok (d.signed x.isNegative (x.toFixed d.places).toList) := by
  rcases mem_realVerbs.1 verb with verb | verb <;> simp [text, verb, real, places]

/-- Whether a plus sign is put before the minus sign of a zero. -/
def DoublySigned (d : Directive) (negative : Bool) (m : Binary64.Magnitude) : Prop :=
  d.plus = true ∧ negative = true ∧ m.units = 0

theorem exists_text_finite (verb : d.verb ∈ realVerbs)
    (real : v.asReal? = some (.finite negative m)) :
    ∃ body, Text.IsPositional d.places body
      ∧ (¬d.DoublySigned negative m → d.text v = .ok ((d.sign? negative).toList ++ body))
      ∧ (d.DoublySigned negative m → d.text v = .ok ('+' :: '-' :: body)) := by
  obtain ⟨body, positional, fixed⟩ := Binary64.exists_toFixed d.places negative m
  have shown := text_of_realVerbs verb real
  rw [fixed, Binary64.isNegative_finite] at shown
  refine ⟨body, positional, fun single => ?_, fun ⟨plus, minus, zero⟩ => ?_⟩
  · rw [shown, ← signed_eq]
    cases negative with
    | false => rfl
    | true =>
      -- Zero is not below itself, so that a plus sign would be put before its minus sign.
      by_cases zero : m.units = 0
      · have plain : d.plus = false := by simpa [DoublySigned, zero] using single
        simp [signed, plain]
      · rw [bne_iff_ne.2 zero]
        rfl
  · rw [shown]
    simp [signed, plus, minus, zero]

end Directive

open Directive

/-- A number is shown as its digits with so many places, behind a minus sign or a plus sign that is
asked for, and filled up to the width. Only the zero below zero is shown with both signs, and what
fills the width stands between them. -/
theorem formatValue_places {d : Spelling} (verb : d.verb ∈ realVerbs) (fits : d.directive.Fits)
    {v : Value} (finite : v.IsFinite) :
    ∃ negative m body, v.asReal? = some (.finite negative m)
      ∧ Text.IsPositional d.directive.places body
      ∧ (¬d.directive.DoublySigned negative m → ∃ shown digits,
        formatValue (String.ofList d.text) v = .ok (String.ofList shown)
        ∧ shown = d.directive.number (d.directive.sign? negative) body
        ∧ Text.trim shown = (d.directive.sign? negative).toList ++ digits
        ∧ Text.IsPositional d.directive.places digits
        ∧ (d.directive.plus = true → (d.directive.sign? negative).isSome = true))
      ∧ (d.directive.DoublySigned negative m →
        formatValue (String.ofList d.text) v
          = .ok (String.ofList (d.directive.number (some '+') ('-' :: body)))) := by
  obtain ⟨negative, m, real⟩ := finite.exists_finite
  obtain ⟨body, positional, single, double⟩ := exists_text_finite (d := d.directive) verb real
  have verbs : d.verb ∈ v.resolved.kind.verbs := by
    rw [finite.resolved_eq]
    exact mem_verbs_of_realVerbs verb finite
  have numeric := isNumeric_of_realVerbs verb
  rw [← finite.resolved_eq] at single double
  refine ⟨negative, m, body, real, positional, fun one => ?_, fun two => ?_⟩
  · have unsigned : ∀ c ∈ body.head?, ¬IsSign c := fun c found =>
      positional.not_isSign c (List.mem_of_mem_head? found)
    have written := formatValue_number verbs fits numeric isSign_of_mem_sign? (fun _ => unsigned)
      (single one)
    let zeros := d.directive.zeros (d.directive.sign? negative) body
    refine ⟨_, zeros ++ body, written, rfl, ?_, ?_, ?_⟩
    · exact trim_number positional.nonempty isSign_of_mem_sign? positional.not_isBlank
    · apply positional.append
      intro c found
      rw [eq_of_mem_zeros c found]
      rfl
    · intro plus
      rw [sign?, plus]
      cases negative <;> rfl
  · have signs : ∀ c ∈ some '+', IsSign c := fun c found => .inr (Option.some.inj found).symm
    exact formatValue_number verbs fits numeric signs
      (fun none => absurd none (Option.some_ne_none _)) (double two)

theorem formatValue_places_below :
    formatValue "%+09.2f" (.integer (-42)) = .ok "-00042.00"
      ∧ ∃ digits, Text.IsPositional 2 digits
        ∧ Text.trim "-00042.00".toList = '-' :: digits := by
  let d : Spelling := ⟨['+', '0'], ['9'], some ['2'], 'f', by simp [isFlag], by simp, by simp,
    by simp⟩
  have finite : (Value.integer (-42)).IsFinite := .integer (by decide)
  have verb : d.verb ∈ realVerbs := by decide
  obtain ⟨negative, m, body, real, -, single, -⟩ := formatValue_places verb (by decide) finite
  have below : (Binary64.finite negative m).isNegative = true := by
    rw [← Option.some.inj real]
    decide +kernel
  rw [Binary64.isNegative_finite, Bool.and_eq_true, bne_iff_ne] at below
  obtain ⟨rfl, nonzero⟩ := below
  obtain ⟨shown, digits, written, -, trimmed, positional, -⟩ := single fun two => nonzero two.2.2
  have computed : formatValue "%+09.2f" (.integer (-42)) = .ok "-00042.00" := by decide +kernel
  have same : String.ofList shown = "-00042.00" := Except.ok.inj (written.symm.trans computed)
  have same : shown = "-00042.00".toList := by
    rw [← same, String.toList_ofList]
  rw [same] at trimmed
  exact ⟨computed, digits, positional, trimmed⟩

/-- The zero below zero is not told from the other one when the plus sign is put before it. -/
theorem formatValue_places_zero :
    formatValue "%+f" (.real (.zero true)) = .ok "+-0.000000"
      ∧ formatValue "%+012f" (.real (.zero true)) = .ok "+00-0.000000"
      ∧ ¬∃ (sign : Option Char) (digits : List Char), (∀ c ∈ sign, IsSign c)
        ∧ Text.IsPositional 6 digits
        ∧ Text.trim "+-0.000000".toList = sign.toList ++ digits := by
  refine ⟨by decide +kernel, by decide +kernel, ?_⟩
  rintro ⟨sign, digits, -, positional, trimmed⟩
  have both : Text.trim "+-0.000000".toList = '+' :: '-' :: "0.000000".toList := by decide
  rw [both] at trimmed
  have found : '-' ∈ digits := by
    cases sign with
    | some c =>
      have behind : '-' :: "0.000000".toList = digits := (List.cons.inj trimmed).2
      exact behind ▸ List.mem_cons_self
    | none =>
      have whole : '+' :: '-' :: "0.000000".toList = digits := trimmed
      exact whole ▸ List.mem_cons_of_mem _ List.mem_cons_self
  exact positional.not_isSign '-' found (.inl rfl)

end SqlTemplate
