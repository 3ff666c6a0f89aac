import SqlTemplate.Proofs.Filling

namespace SqlTemplate

namespace Text

def nextDigit? (base n : Nat) (c : Char) : Option Nat := do
  let digit ← hexValue? c
  if digit < base then some (n * base + digit) else none

def readDigits? (base : Nat) : List Char → Option Nat
  | [] => none
  | digits => digits.foldlM (nextDigit? base) 0

def readInteger? (base : Nat) : List Char → Option Int
  | '-' :: digits => (readDigits? base digits).map fun n => -(n : Int)
  | '+' :: digits => (readDigits? base digits).map fun n => (n : Int)
  | digits => (readDigits? base digits).map fun n => (n : Int)

variable {base : Nat} {letter : Char → Char}

theorem not_isSign_of_hexValue? {c : Char} {n : Nat} (h : hexValue? c = some n) :
    ¬Directive.IsSign c := by
  rintro (rfl | rfl)
  · cases h
  · cases h

theorem mem_range_of_hexValue? {c : Char} {n : Nat} (h : hexValue? c = some n) :
    '0'.toNat ≤ c.toNat ∧ c.toNat ≤ 'f'.toNat := by
  have le (a b : Char) : a ≤ b ↔ a.toNat ≤ b.toNat := UInt32.le_iff_toNat_le
  simp only [hexValue?, le] at h
  split at h
  · next digit => exact ⟨digit.1, digit.2.trans (by decide)⟩
  · split at h
    · next lower => exact ⟨le_trans (by decide) lower.1, lower.2⟩
    · split at h
      · next upper => exact ⟨le_trans (by decide) upper.1, upper.2.trans (by decide)⟩
      · cases h

theorem not_isBlank_of_hexValue? {c : Char} {n : Nat} (h : hexValue? c = some n) :
    isBlank c = false := by
  have within := mem_range_of_hexValue? h
  exact not_isBlank_of_ascii (le_trans (by decide) within.1) (within.2.trans (by decide))

theorem readDigits?_of_ne_nil {digits : List Char} (some : digits ≠ []) :
    readDigits? base digits = digits.foldlM (nextDigit? base) 0 := by
  cases digits with
  | nil => contradiction
  | cons c digits => rfl

theorem readDigits?_zeros_append {digits : List Char} (positive : 0 < base) (some : digits ≠ [])
    (n : Nat) : readDigits? base (List.replicate n '0' ++ digits) = readDigits? base digits := by
  have zero : nextDigit? base 0 '0' = Option.some 0 := by simp [nextDigit?, hexValue?, positive]
  rw [readDigits?_of_ne_nil some, readDigits?_of_ne_nil (List.append_ne_nil_of_right_ne_nil _ some)]
  induction n with
  | zero => rfl
  | succ n ih =>
    rw [List.replicate_succ, List.cons_append, List.foldlM_cons, zero]
    exact ih

theorem foldlM_toDigits (large : 1 < base)
    (value : ∀ n < base, hexValue? (letter (Nat.digitChar n)) = some n) (n : Nat) :
    ((Nat.toDigits base n).map letter).foldlM (nextDigit? base) 0 = some n := by
  induction n using Nat.strongRecOn with
  | ind n ih =>
    rw [Nat.toDigits_eq_if large]
    split
    · next small => simp [nextDigit?, value n small, small]
    · next big =>
      have less : n / base < n := Nat.div_lt_self (by omega) large
      have digit : n % base < base := Nat.mod_lt n (by omega)
      have whole : n / base * base + n % base = n := Nat.div_add_mod' n base
      rw [List.map_append, List.foldlM_append, ih _ less]
      simp [nextDigit?, value _ digit, digit, whole]

theorem exists_hexValue?_of_foldlM {digits : List Char} {n m : Nat}
    (h : digits.foldlM (nextDigit? base) n = some m) : ∀ c ∈ digits, ∃ k, hexValue? c = some k := by
  induction digits generalizing n with
  | nil => nofun
  | cons c digits ih =>
    rw [List.foldlM_cons] at h
    obtain ⟨next, read, rest⟩ := Option.bind_eq_some_iff.1 h
    obtain ⟨k, value, -⟩ := Option.bind_eq_some_iff.1 read
    exact List.forall_mem_cons.2 ⟨⟨k, value⟩, ih rest⟩

theorem readInteger?_sign_append {sign : Option Char} {digits : List Char} {n : Nat}
    (signs : ∀ c ∈ sign, Directive.IsSign c) (read : readDigits? base digits = some n) :
    readInteger? base (sign.toList ++ digits)
      = some (if sign = some '-' then -(n : Int) else n) := by
  cases sign with
  | some c =>
    rcases signs c rfl with rfl | rfl
    · simp [readInteger?, read]
    · simp [readInteger?, read]
  | none =>
    cases digits with
    | nil => cases read
    | cons c digits =>
      obtain ⟨k, value⟩ := exists_hexValue?_of_foldlM read c List.mem_cons_self
      have unsigned := not_isSign_of_hexValue? value
      simp only [Directive.IsSign, not_or] at unsigned
      simp [readInteger?, unsigned, read]

end Text

namespace Directive

def integerVerbs : List Char := ['d', 'x', 'X']

theorem mem_integerVerbs {verb : Char} :
    verb ∈ integerVerbs ↔ verb = 'd' ∨ verb = 'x' ∨ verb = 'X' := by
  simp [integerVerbs]

def base (verb : Char) : Nat := if verb = 'd' then 10 else 16

def letter (verb : Char) : Char → Char := if verb = 'X' then Char.toUpper else id

def numeral (verb : Char) (n : Nat) : List Char := (Nat.toDigits (base verb) n).map (letter verb)

theorem base_le (verb : Char) : base verb ≤ 16 := by
  rw [base]
  split <;> decide

theorem hexValue?_letter (verb : Char) : ∀ n < base verb,
    Text.hexValue? (letter verb (Nat.digitChar n)) = some n := by
  intro n small
  have small : n < 16 := small.trans_le (base_le verb)
  rw [letter]
  split
  · exact (by decide : ∀ n < 16, Text.hexValue? (Nat.digitChar n).toUpper = some n) n small
  · exact Text.hexValue?_digitChar n small

theorem one_lt_base (verb : Char) : 1 < base verb := by
  rw [base]
  split <;> decide

theorem numeral_ne_nil (verb : Char) (n : Nat) : numeral verb n ≠ [] :=
  mt List.map_eq_nil_iff.1 Nat.toDigits_ne_nil

theorem length_numeral (verb : Char) (n : Nat) :
    (numeral verb n).length = (Nat.toDigits (base verb) n).length := List.length_map ..

theorem exists_hexValue?_of_mem_numeral {verb : Char} {n : Nat} :
    ∀ c ∈ numeral verb n, ∃ k, Text.hexValue? c = some k :=
  Text.exists_hexValue?_of_foldlM
    (Text.foldlM_toDigits (one_lt_base verb) (hexValue?_letter verb) n)

theorem not_isBlank_of_mem_numeral {verb : Char} {n : Nat} :
    ∀ c ∈ numeral verb n, Text.isBlank c = false := by
  intro c found
  obtain ⟨k, value⟩ := exists_hexValue?_of_mem_numeral c found
  exact Text.not_isBlank_of_hexValue? value

theorem not_isSign_of_mem_numeral {verb : Char} {n : Nat} :
    ∀ c ∈ numeral verb n, ¬IsSign c := by
  intro c found
  obtain ⟨k, value⟩ := exists_hexValue?_of_mem_numeral c found
  exact Text.not_isSign_of_hexValue? value

theorem readDigits?_numeral (verb : Char) (n : Nat) :
    Text.readDigits? (base verb) (numeral verb n) = some n := by
  rw [Text.readDigits?_of_ne_nil (numeral_ne_nil verb n)]
  exact Text.foldlM_toDigits (one_lt_base verb) (hexValue?_letter verb) n

theorem text_integer {d : Directive} (verb : d.verb ∈ integerVerbs) (n : Int) :
    d.text (.integer n) = .ok ((d.sign? (n < 0)).toList ++ numeral d.verb n.natAbs) := by
  have signed (base : Nat) : d.signed (n < 0) (integerDigits base n)
      = (d.sign? (n < 0)).toList ++ Nat.toDigits base n.natAbs := by
    rw [← signed_eq, integerDigits]
    simp only [decide_eq_true_eq]
  have upper : (d.sign? (n < 0)).toList.map Char.toUpper = (d.sign? (n < 0)).toList := by
    rw [sign?]
    cases decide (n < 0) <;> cases d.plus <;> rfl
  rcases mem_integerVerbs.1 verb with verb | verb | verb
  · simp [text, verb, Value.asInteger?, signed, numeral, letter, base]
  · simp [text, verb, hexText?, signed, numeral, letter, base]
  · simp [text, verb, hexText?, signed, numeral, letter, base, upper]

theorem readInteger?_trim_number {d : Directive} {verb : Char} {sign : Option Char} {n : Nat}
    (signs : ∀ c ∈ sign, IsSign c) :
    Text.readInteger? (base verb) (Text.trim (d.number sign (numeral verb n)))
      = some (if sign = some '-' then -(n : Int) else n) := by
  have read : Text.readDigits? (base verb) (d.zeros sign (numeral verb n) ++ numeral verb n)
      = some n := by
    obtain ⟨k, zeros⟩ := d.exists_zeros sign (numeral verb n)
    rw [zeros, Text.readDigits?_zeros_append (one_lt_base verb).le (numeral_ne_nil verb n)]
    exact readDigits?_numeral verb n
  rw [trim_number (numeral_ne_nil verb n) signs not_isBlank_of_mem_numeral]
  exact Text.readInteger?_sign_append signs read

theorem mem_verbs_of_integerVerbs {verb : Char} (h : verb ∈ integerVerbs) :
    verb ∈ Kind.integer.verbs := by
  rcases mem_integerVerbs.1 h with rfl | rfl | rfl <;> decide

theorem isNumeric_of_integerVerbs {verb : Char} (h : verb ∈ integerVerbs) :
    isNumeric verb = true := by
  rcases mem_integerVerbs.1 h with rfl | rfl | rfl <;> rfl

end Directive

open Directive

/-- An integer is shown as its digits in the base of the verb, behind a minus sign or a plus sign
that is asked for, and filled up to the width. Without its outer spaces it reads back. A precision
changes nothing, unless it is too large. -/
theorem formatValue_integer {d : Spelling} (verb : d.verb ∈ integerVerbs)
    (width : d.directive.width.getD 0 ≤ maxWidth) (n : Int) :
    (d.directive.precision.getD 0 ≤ maxWidth → ∃ shown,
      formatValue (String.ofList d.text) (.integer n) = .ok (String.ofList shown)
      ∧ shown = d.directive.number (d.directive.sign? (n < 0)) (numeral d.verb n.natAbs)
      ∧ shown.length = max (d.directive.width.getD 0)
        ((Nat.toDigits (base d.verb) n.natAbs).length
          + if n < 0 ∨ d.directive.plus = true then 1 else 0)
      ∧ Text.readInteger? (base d.verb) (Text.trim shown) = some n
      ∧ ((Text.trim shown).head? = some '+' ↔ d.directive.plus = true ∧ 0 ≤ n))
    ∧ (maxWidth < d.directive.precision.getD 0 →
      formatValue (String.ofList d.text) (.integer n)
        = .error (.format .tooWide (String.ofList d.text))) := by
  have negative : d.directive.sign? (n < 0) = some '-' ↔ n < 0 := by
    rw [sign?_eq_minus_iff, decide_eq_true_iff]
  constructor
  · intro places
    have text : d.directive.text (Value.integer n).resolved
        = .ok ((d.directive.sign? (n < 0)).toList ++ numeral d.verb n.natAbs) :=
      text_integer verb n
    have unsigned : ∀ c ∈ (numeral d.verb n.natAbs).head?, ¬IsSign c := fun c found =>
      not_isSign_of_mem_numeral c (List.mem_of_mem_head? found)
    have written := formatValue_number (mem_verbs_of_integerVerbs verb) ⟨width, places⟩
      (isNumeric_of_integerVerbs verb) isSign_of_mem_sign? (fun _ => unsigned) text
    refine ⟨_, written, rfl, ?_, ?_, ?_⟩
    · rw [length_number, List.length_append, length_sign?, length_numeral, Nat.add_comm]
      simp
    · rw [readInteger?_trim_number isSign_of_mem_sign?]
      simp only [negative, Option.some.injEq]
      omega
    · rw [head?_trim_number_eq_iff (numeral_ne_nil d.verb n.natAbs) isSign_of_mem_sign?
        not_isBlank_of_mem_numeral not_isSign_of_mem_numeral (.inr rfl), sign?_eq_plus_iff,
        decide_eq_false_iff_not, Int.not_lt]
  · intro places
    exact formatValue_text_tooWide (mem_verbs_of_integerVerbs verb) fun fits =>
      absurd fits.2 (Nat.not_le.2 places)

theorem formatValue_integer_least :
    formatValue "%+020X" (.integer minInteger) = .ok "-0008000000000000000"
      ∧ Text.readInteger? 16 (Text.trim "-0008000000000000000".toList) = some minInteger := by
  let d : Spelling := ⟨['+', '0'], ['2', '0'], none, 'X', by simp [isFlag], by simp, by simp, nofun⟩
  have verb : d.verb ∈ integerVerbs := by decide
  obtain ⟨shown, written, filled, -, read, -⟩ :=
    (formatValue_integer verb (by decide) minInteger).1 (by decide)
  have same : d.directive.number (d.directive.sign? (minInteger < 0))
      (numeral d.verb minInteger.natAbs) = "-0008000000000000000".toList := by decide +kernel
  rw [filled, same] at written read
  exact ⟨written, read⟩

/-- A precision does nothing to an integer, but too large a one is refused all the same. -/
theorem formatValue_integer_tooWide :
    formatValue "%.4097d" (.integer 1) = .error (.format .tooWide "%.4097d")
      ∧ ¬∃ shown, formatValue "%.4097d" (.integer 1) = .ok shown := by
  have refused : formatValue "%.4097d" (.integer 1)
      = .error (.format .tooWide "%.4097d") := by decide +kernel
  refine ⟨refused, ?_⟩
  rintro ⟨shown, written⟩
  rw [refused] at written
  cases written

end SqlTemplate
