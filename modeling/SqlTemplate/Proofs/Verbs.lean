import SqlTemplate.Proofs.Numeral

namespace SqlTemplate

theorem Value.toText_resolved (v : Value) : v.resolved.toText = v.toText := by
  match v with
  | .present v => rw [resolved_present, toText_resolved v, toText]
  | .absent => rw [resolved_absent, toText, toText]
  | .null | .boolean _ | .integer _ | .real _ | .numeric _ | .text _ | .date _
  | .timestamp _ | .timestampTz _ | .uuid _ | .bytea _ | .list _ | .map _ => rfl

theorem Directive.toDigits_eq_numeral (n : Nat) : Nat.toDigits 16 n = numeral 'x' n :=
  (List.map_id _).symm

namespace Text.Quoted

open Directive (toDigits_eq_numeral)

def marked? (c : Char) : Option Char :=
  [('"', '"'), ('\\', '\\'), ('n', '\n'), ('r', '\r'), ('t', '\t'), ('0', '\x00')].lookup c

def readChar? : List Char → Option (Char × List Char)
  | '\\' :: 'u' :: '{' :: s => do
    let digits := s.takeWhile (· != '}')
    return (.ofNat (← readDigits? 16 digits), s.drop (digits.length + 1))
  | '\\' :: c :: s => do return (← marked? c, s)
  | c :: s => if c = '"' ∨ c = '\\' then none else some (c, s)
  | [] => none

theorem readChar?_hex (n : Nat) (s : List Char) :
    readChar? (['\\', 'u', '{'] ++ Nat.toDigits 16 n ++ ['}'] ++ s) = some (.ofNat n, s) := by
  have stop : ∀ c ∈ Nat.toDigits 16 n, (c != '}') = true := by
    intro c found
    rw [toDigits_eq_numeral] at found
    obtain ⟨k, value⟩ := Directive.exists_hexValue?_of_mem_numeral c found
    rw [bne_iff_ne]
    rintro rfl
    cases value
  have read : readDigits? 16 (Nat.toDigits 16 n) = some n := by
    rw [toDigits_eq_numeral]
    exact Directive.readDigits?_numeral 'x' n
  have taken : (Nat.toDigits 16 n ++ '}' :: s).takeWhile (· != '}') = Nat.toDigits 16 n := by
    rw [List.takeWhile_append_of_pos stop, List.takeWhile_cons_of_neg (by decide), List.append_nil]
  simp [readChar?, taken, read]

theorem readChar?_escape_append (c : Char) (s : List Char) :
    readChar? (escape c ++ s) = some (c, s) := by
  rw [escape]
  repeat' split
  · subst c; rfl
  · subst c; rfl
  · subst c; rfl
  · subst c; rfl
  · subst c; rfl
  · subst c; rfl
  · next quote mark _ _ _ _ _ => simp [readChar?, quote, mark]
  · rw [readChar?_hex, Char.ofNat_toNat]

theorem eq_of_flatMap_append {s t a b : List Char}
    (h : s.flatMap escape ++ '"' :: a = t.flatMap escape ++ '"' :: b) : s = t ∧ a = b := by
  induction s generalizing t with
  | nil =>
    cases t with
    | nil => exact ⟨rfl, (List.cons.inj h).2⟩
    | cons d t =>
      have read := congrArg readChar? h
      rw [List.flatMap_cons, List.append_assoc, readChar?_escape_append] at read
      cases read
  | cons c s ih =>
    have read := congrArg readChar? h
    rw [List.flatMap_cons, List.append_assoc, readChar?_escape_append] at read
    cases t with
    | nil => cases read
    | cons d t =>
      rw [List.flatMap_cons, List.append_assoc, readChar?_escape_append] at read
      obtain ⟨rfl, rest⟩ := Prod.mk.inj (Option.some.inj read)
      obtain ⟨rfl, behind⟩ := ih rest
      exact ⟨rfl, behind⟩

theorem eq_of_encode_append {s t a b : List Char} (h : encode s ++ a = encode t ++ b) :
    s = t ∧ a = b := by
  simp only [encode, List.append_assoc, List.cons_append, List.nil_append, List.cons.injEq,
    true_and] at h
  exact eq_of_flatMap_append h

theorem isPrintable_of_ascii {c : Char} (low : 32 ≤ c.toNat) (high : c.toNat ≤ 126) :
    isPrintable c = true := by
  have le (a b : Char) : a ≤ b ↔ a.toNat ≤ b.toNat := UInt32.le_iff_toNat_le
  rw [isPrintable, Bool.or_eq_true, Bool.and_eq_true, decide_eq_true_iff, decide_eq_true_iff, le,
    le]
  exact .inl ⟨low, high⟩

theorem isPrintable_of_mem_toDigits {n : Nat} :
    ∀ c ∈ Nat.toDigits 16 n, isPrintable c = true := by
  intro c found
  rw [toDigits_eq_numeral] at found
  obtain ⟨k, value⟩ := Directive.exists_hexValue?_of_mem_numeral c found
  have within := mem_range_of_hexValue? value
  exact isPrintable_of_ascii (le_trans (by decide) within.1) (within.2.trans (by decide))

theorem isPrintable_of_mem_escape {c : Char} : ∀ d ∈ escape c, isPrintable d = true := by
  rw [escape]
  repeat' split
  · exact List.all_eq_true.1 rfl
  · exact List.all_eq_true.1 rfl
  · exact List.all_eq_true.1 rfl
  · exact List.all_eq_true.1 rfl
  · exact List.all_eq_true.1 rfl
  · exact List.all_eq_true.1 rfl
  · next printable => simpa using printable
  · simp only [List.forall_mem_append]
    exact ⟨⟨List.all_eq_true.1 rfl, isPrintable_of_mem_toDigits⟩, List.all_eq_true.1 rfl⟩

theorem isPrintable_of_mem_encode {s : List Char} : ∀ c ∈ encode s, isPrintable c = true := by
  simp only [encode, List.forall_mem_append, List.forall_mem_singleton]
  refine ⟨⟨rfl, ?_⟩, rfl⟩
  intro d found
  obtain ⟨c, -, escaped⟩ := List.mem_flatMap.1 found
  exact isPrintable_of_mem_escape d escaped

end Text.Quoted

namespace Directive

def padded (d : Directive) (s : List Char) : List Char :=
  if d.left then s ++ List.replicate (d.missing s) ' ' else List.replicate (d.missing s) ' ' ++ s

theorem fill_eq_padded {d : Directive} (words : isNumeric d.verb = false) (s : List Char) :
    d.fill s = d.padded s := by
  unfold fill padded missing
  rw [words, Bool.and_false]
  rfl

/-- The verbs that show any value, by its text. -/
def textVerbs : List Char := ['v', 's', 'q']

theorem mem_textVerbs {verb : Char} : verb ∈ textVerbs ↔ verb = 'v' ∨ verb = 's' ∨ verb = 'q' := by
  simp [textVerbs]

theorem isNumeric_of_textVerbs {verb : Char} (h : verb ∈ textVerbs) : isNumeric verb = false := by
  rcases mem_textVerbs.1 h with rfl | rfl | rfl <;> rfl

/-- The verbs that show bytes by their digits. -/
def hexVerbs : List Char := ['x', 'X']

theorem mem_hexVerbs {verb : Char} : verb ∈ hexVerbs ↔ verb = 'x' ∨ verb = 'X' := by
  simp [hexVerbs]

theorem isNumeric_of_hexVerbs {verb : Char} (h : verb ∈ hexVerbs) : isNumeric verb = true := by
  rcases mem_hexVerbs.1 h with rfl | rfl <;> rfl

theorem hexValue?_letter_of_hexVerbs {verb : Char} (h : verb ∈ hexVerbs) :
    ∀ n < 16, Text.hexValue? (letter verb (Nat.digitChar n)) = some n := by
  have sixteen : base verb = 16 := by
    rcases mem_hexVerbs.1 h with rfl | rfl <;> rfl
  rw [← sixteen]
  exact hexValue?_letter verb

def bytes? : Value → Option (List UInt8)
  | .text s => some (Text.bytes s)
  | .bytea bytes => some bytes
  | _ => none

variable {d : Directive} {v : Value} {bytes : List UInt8}

theorem mem_verbs_of_bytes? {verb : Char} (h : verb ∈ hexVerbs) (held : bytes? v = some bytes) :
    verb ∈ v.kind.verbs := by
  cases v with
  | text | bytea => rcases mem_hexVerbs.1 h with rfl | rfl <;> simp [Value.kind, Kind.verbs]
  | _ => cases held

theorem text_of_bytes? (verb : d.verb ∈ hexVerbs) (held : bytes? v = some bytes) :
    d.text v = .ok ((Text.hexBytes bytes).map (letter d.verb)) := by
  have lower : d.hexText? v = some (Text.hexBytes bytes) := by
    cases v with
    | text | bytea =>
      cases held
      rfl
    | _ => cases held
  rcases mem_hexVerbs.1 verb with verb | verb
  · simp [text, verb, lower, letter]
  · simp [text, verb, lower, letter]

theorem exists_digitChar_of_mem_map {verb : Char} :
    ∀ c ∈ (Text.hexBytes bytes).map (letter verb), ∃ n < 16, c = letter verb (Nat.digitChar n) := by
  simp only [List.forall_mem_map]
  intro c found
  obtain ⟨n, small, rfl⟩ := Text.exists_digitChar_of_mem_hexBytes c found
  exact ⟨n, small, rfl⟩

def typedVerbs : List Char := ['d', 'f', 'F', 'x', 'X', 't']

theorem text_eq_mismatch (verb : d.verb ∈ typedVerbs) (other : d.verb ∉ v.kind.verbs) :
    d.text v = .error (.mismatch d.verb v.kind) := by
  simp only [typedVerbs, List.mem_cons, List.not_mem_nil, or_false] at verb
  rcases verb with verb | verb | verb | verb | verb | verb
  · cases v <;> simp_all [text, Value.asInteger?, Value.kind, Kind.verbs]
  · cases v <;> simp_all [text, Value.asReal?, Value.kind, Kind.verbs]
  · cases v <;> simp_all [text, Value.asReal?, Value.kind, Kind.verbs]
  · cases v <;> simp_all [text, hexText?, Value.kind, Kind.verbs]
  · cases v <;> simp_all [text, hexText?, Value.kind, Kind.verbs]
  · cases v <;> simp_all [text, Value.asBoolean?, Value.kind, Kind.verbs]

end Directive

open Directive

variable {d : Spelling} {v : Value}

theorem formatValue_padded {shown : List Char} (verb : d.verb ∈ v.resolved.kind.verbs)
    (fits : d.directive.Fits) (words : isNumeric d.verb = false)
    (text : d.directive.text v.resolved = .ok shown) :
    formatValue (String.ofList d.text) v = .ok (String.ofList (d.directive.padded shown)) := by
  rw [formatValue_text verb fits text, fill_eq_padded words]

theorem formatValue_of_textVerbs {shown : List Char} (verb : d.verb ∈ textVerbs)
    (fits : d.directive.Fits) (text : d.directive.text v.resolved = .ok shown) :
    formatValue (String.ofList d.text) v = .ok (String.ofList (d.directive.padded shown)) :=
  formatValue_padded (List.mem_append_left _ verb) fits (isNumeric_of_textVerbs verb) text

theorem formatValue_v (verb : d.verb = 'v') (fits : d.directive.Fits) (v : Value) :
    formatValue (String.ofList d.text) v
      = .ok (String.ofList (d.directive.padded v.toText.toList)) := by
  have text : d.directive.text v.resolved = .ok v.toText.toList := by
    simp [Directive.text, Spelling.directive, verb, Value.toText_resolved]
  exact formatValue_of_textVerbs (mem_textVerbs.2 (.inl verb)) fits text

theorem formatValue_s (verb : d.verb = 's') (fits : d.directive.Fits) (v : Value) : ∃ shown,
    formatValue (String.ofList d.text) v = .ok (String.ofList (d.directive.padded shown))
    ∧ shown <+: v.toText.toList
    ∧ shown.length = min (d.directive.precision.getD v.toText.length) v.toText.length := by
  have text : d.directive.text v.resolved
      = .ok (v.toText.toList.take (d.directive.precision.getD v.toText.length)) := by
    have named : d.directive.verb = 's' := verb
    cases precision : d.directive.precision with
    | some p => simp [Directive.text, named, precision, Value.toText_resolved]
    | none =>
      rw [Option.getD_none, ← String.length_toList, List.take_length]
      simp [Directive.text, named, precision, Value.toText_resolved]
  have written := formatValue_of_textVerbs (mem_textVerbs.2 (.inr (.inl verb))) fits text
  refine ⟨_, written, List.take_prefix _ _, ?_⟩
  rw [List.length_take, String.length_toList]

/-- A quoted text shows all of its characters, and it is the only one that is quoted like this. -/
theorem formatValue_q (verb : d.verb = 'q') (fits : d.directive.Fits) (v : Value) : ∃ shown,
    formatValue (String.ofList d.text) v = .ok (String.ofList (d.directive.padded shown))
    ∧ (∀ c ∈ shown, Text.isPrintable c = true)
    ∧ ∀ s, Text.Quoted.encode s = shown ↔ s = v.toText.toList := by
  have text : d.directive.text v.resolved = .ok (Text.Quoted.encode v.toText.toList) := by
    simp [Directive.text, Spelling.directive, verb, Value.toText_resolved]
  have written := formatValue_of_textVerbs (mem_textVerbs.2 (.inr (.inr verb))) fits text
  refine ⟨_, written, Text.Quoted.isPrintable_of_mem_encode, ?_⟩
  intro s
  constructor
  · intro same
    exact (Text.Quoted.eq_of_encode_append (congrArg (· ++ []) same)).1
  · rintro rfl
    rfl

theorem formatValue_t (verb : d.verb = 't') (fits : d.directive.Fits) {b : Bool}
    (truth : v.resolved = .boolean b) :
    formatValue (String.ofList d.text) v
      = .ok (String.ofList (d.directive.padded (if b then "true" else "false").toList)) := by
  have text : d.directive.text v.resolved = .ok (if b then "true" else "false").toList := by
    simp only [Directive.text, Spelling.directive, verb, truth, Value.asBoolean?]
    cases b <;> rfl
  have verbs : d.verb ∈ v.resolved.kind.verbs := by
    rw [truth, verb]
    exact (by decide : 't' ∈ Kind.boolean.verbs)
  exact formatValue_padded verbs fits (by rw [verb]; rfl) text

/-- Bytes are shown by two digits for each, and read back from them. -/
theorem formatValue_hex (verb : d.verb ∈ hexVerbs) (fits : d.directive.Fits) {bytes : List UInt8}
    (held : bytes? v.resolved = some bytes) : ∃ digits,
      formatValue (String.ofList d.text) v
        = .ok (String.ofList (d.directive.number none digits))
      ∧ digits.length = 2 * bytes.length
      ∧ Text.readHexBytes? digits = some bytes
      ∧ ∀ c ∈ digits, ∃ n < 16, c = letter d.verb (Nat.digitChar n) := by
  have value := hexValue?_letter_of_hexVerbs verb
  have unsigned : ∀ c ∈ ((Text.hexBytes bytes).map (letter d.verb)).head?, ¬IsSign c := by
    intro c found
    obtain ⟨n, small, rfl⟩ := exists_digitChar_of_mem_map c (List.mem_of_mem_head? found)
    exact Text.not_isSign_of_hexValue? (value n small)
  have text : d.directive.text v.resolved
      = .ok (none.toList ++ (Text.hexBytes bytes).map (letter d.verb)) := text_of_bytes? verb held
  have written := formatValue_number (mem_verbs_of_bytes? verb held) fits
    (isNumeric_of_hexVerbs verb) (by simp) (fun _ => unsigned) text
  refine ⟨_, written, ?_, Text.readHexBytes?_map_hexBytes value bytes, exists_digitChar_of_mem_map⟩
  rw [List.length_map, Text.length_hexBytes]

theorem formatValue_of_text_error (verb : IsVerb d.verb ∧ d.verb ≠ '%')
    (fits : d.directive.Fits) {fault : FormatFault}
    (text : d.directive.text v.resolved = .error fault) :
    formatValue (String.ofList d.text) v = .error (.format fault (String.ofList d.text)) := by
  have expanded := d.pattern.expand_text v.resolved verb
  rw [if_pos (show d.pattern.directive.directive.Fits from fits), d.text_pattern,
    show d.pattern.directive.directive.text v.resolved = _ from text] at expanded
  rw [formatValue, String.toList_ofList, expanded]
  rfl

theorem formatValue_mismatch (verb : d.verb ∈ typedVerbs) (fits : d.directive.Fits)
    (other : d.verb ∉ v.resolved.kind.verbs) :
    formatValue (String.ofList d.text) v
      = .error (.format (.mismatch d.verb v.resolved.kind) (String.ofList d.text)) := by
  have all : (typedVerbs.all fun c => decide (IsVerb c ∧ c ≠ '%')) = true := by decide
  have isVerb := of_decide_eq_true (List.all_eq_true.1 all d.verb verb)
  exact formatValue_of_text_error isVerb fits (text_eq_mismatch verb other)

theorem formatValue_unknownVerb (verb : IsVerb d.verb ∧ d.verb ≠ '%') (fits : d.directive.Fits)
    (unknown : d.verb ∉ textVerbs ++ typedVerbs) (v : Value) :
    formatValue (String.ofList d.text) v
      = .error (.format (.unknownVerb d.verb) (String.ofList d.text)) := by
  have text : d.directive.text v.resolved = .error (.unknownVerb d.verb) := by
    have named : d.directive.verb = d.verb := rfl
    rw [Directive.text, named]
    split <;> simp_all [textVerbs, typedVerbs]
  exact formatValue_of_text_error verb fits text

end SqlTemplate
