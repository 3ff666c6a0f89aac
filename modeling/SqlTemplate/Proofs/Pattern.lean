import SqlTemplate.Proofs.Directive

namespace SqlTemplate

open Text (Reading)

/-- The verbs that can show a value of a kind. -/
def Kind.verbs (k : Kind) : List Char := ['v', 's', 'q'] ++ match k with
  | .boolean => ['t']
  | .integer => ['d', 'x', 'X', 'f', 'F']
  | .real => ['f', 'F']
  | .numeric => ['f', 'F']
  | .text => ['x', 'X']
  | .bytea => ['x', 'X']
  | _ => []

theorem Kind.isVerb_of_mem_verbs {k : Kind} {c : Char} (h : c ∈ k.verbs) :
    Directive.IsVerb c ∧ c ≠ '%' := by
  have all : (k.verbs.all fun c => decide (Directive.IsVerb c ∧ c ≠ '%')) = true := by
    cases k <;> decide
  exact of_decide_eq_true (List.all_eq_true.1 all c h)

namespace Directive

theorem exists_text_iff (d : Directive) (v : Value) :
    (∃ shown, d.text v = .ok shown) ↔ d.verb ∈ v.kind.verbs := by
  rw [text]
  split
  · next verb => exact iff_of_true ⟨_, rfl⟩ (List.mem_append_left _ (by simp [verb]))
  · next verb => exact iff_of_true ⟨_, rfl⟩ (List.mem_append_left _ (by simp [verb]))
  · next verb => cases v <;> simp [verb, Value.asInteger?, Value.kind, Kind.verbs]
  · next verb => cases v <;> simp [verb, Value.asReal?, Value.kind, Kind.verbs]
  · next verb => cases v <;> simp [verb, Value.asReal?, Value.kind, Kind.verbs]
  · next verb => cases v <;> simp [verb, hexText?, Value.kind, Kind.verbs]
  · next verb => cases v <;> simp [verb, hexText?, Value.kind, Kind.verbs]
  · next verb => exact iff_of_true ⟨_, rfl⟩ (List.mem_append_left _ (by simp [verb]))
  · next verb => cases v <;> simp [verb, Value.asBoolean?, Value.kind, Kind.verbs]
  · cases v <;> simp_all [Value.kind, Kind.verbs]

end Directive

namespace Format

def escape (s : List Char) : List Char := s.flatMap fun c => if c = '%' then ['%', '%'] else [c]

structure Pattern where
  before : List Char
  directive : Directive.Spelling
  after : List Char

def Pattern.text (p : Pattern) : List Char :=
  escape p.before ++ (p.directive.text ++ escape p.after)

variable {v : Value} {s t out : List Char}

theorem expand_percent (v : Value) (used : Bool) (s : List Char) :
    expand v used ('%' :: '%' :: s) = (expand v used s).map ('%' :: ·) := by
  rw [expand]
  cases expand v used s <;> rfl

theorem expand_char {c : Char} (h : c ≠ '%') (v : Value) (used : Bool) (s : List Char) :
    expand v used (c :: s) = (expand v used s).map (c :: ·) := by
  rw [expand]
  · cases expand v used s <;> rfl
  · exact fun _ same _ => h same
  · exact h

theorem expand_directive (h : s.head? ≠ some '%') (v : Value) (used : Bool) :
    expand v used ('%' :: s) = ((Directive.read s).map Reading.view).bind fun (d, rest) =>
      if used then .error .moreVerbs
      else (d.text v).bind fun shown => (expand v true rest).map (d.fill shown ++ ·) := by
  rw [expand]
  · cases Directive.read s with
    | error fault => rfl
    | ok directive =>
      cases used with
      | true => rfl
      | false =>
        simp only [bind, Except.bind, Except.map, Reading.view]
        cases directive.value.text v with
        | error fault => rfl
        | ok shown =>
          simp
          cases expand v true directive.rest <;> rfl
  · rintro rest rfl
    exact h rfl

theorem escape_percent (s : List Char) : escape ('%' :: s) = '%' :: '%' :: escape s := rfl

theorem escape_of_ne {c : Char} (h : c ≠ '%') (s : List Char) :
    escape (c :: s) = c :: escape s := by
  rw [escape, List.flatMap_cons, if_neg h]
  rfl

theorem expand_escape_append (v : Value) (used : Bool) (s t : List Char) :
    expand v used (escape s ++ t) = (expand v used t).map (s ++ ·) := by
  induction s with
  | nil =>
    change expand v used t = _
    cases expand v used t <;> rfl
  | cons c s ih =>
    by_cases percent : c = '%'
    · subst percent
      rw [escape_percent, List.cons_append, List.cons_append, expand_percent, ih]
      cases expand v used t <;> rfl
    · rw [escape_of_ne percent, List.cons_append, expand_char percent, ih]
      cases expand v used t <;> rfl

theorem expand_escape (v : Value) (s : List Char) : expand v true (escape s) = .ok s := by
  have expanded := expand_escape_append v true s []
  rw [List.append_nil, expand] at expanded
  simpa [Except.map] using expanded

def Pattern.fill (p : Pattern) (shown : List Char) : List Char :=
  p.before ++ (p.directive.directive.fill shown ++ p.after)

theorem Pattern.expand_text (p : Pattern) (v : Value)
    (verb : Directive.IsVerb p.directive.verb ∧ p.directive.verb ≠ '%') :
    expand v false p.text = if p.directive.directive.Fits then
      (p.directive.directive.text v).map p.fill else .error .tooWide := by
  obtain ⟨isVerb, single⟩ := verb
  have head := Directive.Spelling.head?_tail_append_ne single (escape p.after)
  rw [text, expand_escape_append, Directive.Spelling.text, List.cons_append, expand_directive head,
    p.directive.view_read_tail isVerb]
  split
  · simp only [Except.bind, Bool.false_eq_true, if_false, expand_escape]
    cases p.directive.directive.text v <;> rfl
  · rfl

def Expands (v : Value) : Bool → List Char → List Char → Prop
  | true, s, out => s = escape out
  | false, s, out => ∃ (p : Pattern) (shown : List Char), s = p.text ∧ p.directive.directive.Fits
    ∧ p.directive.directive.text v = .ok shown ∧ out = p.fill shown

theorem Expands.percent {used : Bool} (h : Expands v used s out) :
    Expands v used ('%' :: '%' :: s) ('%' :: out) := by
  cases used with
  | true =>
    cases h
    exact (escape_percent out).symm
  | false =>
    obtain ⟨p, shown, rfl, fits, text, rfl⟩ := h
    exact ⟨⟨'%' :: p.before, p.directive, p.after⟩, shown, rfl, fits, text, rfl⟩

theorem Expands.char {c : Char} {used : Bool} (other : c ≠ '%') (h : Expands v used s out) :
    Expands v used (c :: s) (c :: out) := by
  cases used with
  | true =>
    cases h
    exact (escape_of_ne other out).symm
  | false =>
    obtain ⟨p, shown, rfl, fits, text, rfl⟩ := h
    refine ⟨⟨c :: p.before, p.directive, p.after⟩, shown, ?_, fits, text, rfl⟩
    rw [Pattern.text, Pattern.text, escape_of_ne other]
    rfl

theorem expands_of_expand {used : Bool} (h : expand v used s = .ok out) :
    Expands v used s out := by
  induction used, s using expand.induct generalizing out with
  | case1 =>
    rw [expand] at h
    cases h
    rfl
  | case2 used unused =>
    rw [expand, if_neg unused] at h
    cases h
  | case3 used s ih =>
    rw [expand_percent] at h
    obtain ⟨rest, expanded, rfl⟩ := exists_of_map_eq_ok h
    exact (ih expanded).percent
  | case4 used s single ih =>
    have head : s.head? ≠ some '%' := by
      intro percent
      obtain ⟨t, rfl⟩ := List.head?_eq_some_iff.1 percent
      exact single t rfl
    rw [expand_directive head] at h
    obtain ⟨⟨d, rest⟩, read, h⟩ := exists_of_bind_eq_ok h
    cases used with
    | true => cases h
    | false =>
      obtain ⟨shown, text, h⟩ := exists_of_bind_eq_ok h
      obtain ⟨after, expanded, rfl⟩ := exists_of_map_eq_ok h
      -- The directive is used now, so that what stands behind it is text.
      obtain ⟨spelling, rfl, fits, spelled⟩ := Directive.Spelling.exists_tail_append read
      obtain ⟨reading, -, view⟩ := exists_of_map_eq_ok read
      obtain rfl : reading.rest = rest := congrArg Prod.snd view
      have behind : reading.rest = escape after := ih reading expanded
      rw [behind] at spelled
      exact ⟨⟨[], spelling, after⟩, shown, congrArg ('%' :: ·) spelled, fits, text, rfl⟩
  | case5 used c s _ other ih =>
    rw [expand_char other] at h
    obtain ⟨rest, expanded, rfl⟩ := exists_of_map_eq_ok h
    exact (ih expanded).char other

theorem escape_injective {a b : List Char} (h : escape a = escape b) : a = b := by
  have left := expand_escape .null a
  have right := expand_escape .null b
  rw [h, right] at left
  exact (Except.ok.inj left).symm

theorem head?_escape_append (c : Char) (a s : List Char) :
    (escape (c :: a) ++ s).head? = some c := by
  by_cases percent : c = '%'
  · rw [percent]
    rfl
  · rw [escape_of_ne percent]
    rfl

theorem eq_of_escape_append {a b : List Char} (hs : s.head? ≠ some '%') (ht : t.head? ≠ some '%')
    (h : escape a ++ '%' :: s = escape b ++ '%' :: t) : a = b ∧ s = t := by
  induction a generalizing b with
  | nil =>
    cases b with
    | nil => exact ⟨rfl, (List.cons.inj h).2⟩
    | cons d b =>
      have head := (congrArg List.head? h).trans (head?_escape_append d b _)
      obtain rfl : '%' = d := Option.some.inj head
      exact absurd (congrArg List.head? (List.cons.inj h).2) hs
  | cons c a ih =>
    have head := (head?_escape_append c a _).symm.trans (congrArg List.head? h)
    cases b with
    | nil =>
      obtain rfl : c = '%' := Option.some.inj head
      exact absurd (congrArg List.head? (List.cons.inj h).2).symm ht
    | cons d b =>
      obtain rfl : c = d := Option.some.inj (head.trans (head?_escape_append d b _))
      -- A percent sign of the text is written twice in both, and the texts go on behind it.
      by_cases percent : c = '%'
      · subst percent
        obtain ⟨same, rest⟩ := ih (List.cons.inj (List.cons.inj h).2).2
        exact ⟨congrArg ('%' :: ·) same, rest⟩
      · rw [escape_of_ne percent, escape_of_ne percent] at h
        obtain ⟨same, rest⟩ := ih (List.cons.inj h).2
        exact ⟨congrArg (c :: ·) same, rest⟩

theorem Pattern.eq_of_text_eq {p q : Pattern} {v w : Value}
    (hp : p.directive.verb ∈ v.kind.verbs) (hq : q.directive.verb ∈ w.kind.verbs)
    (h : p.text = q.text) : p = q := by
  obtain ⟨isVerb, single⟩ := Kind.isVerb_of_mem_verbs hp
  obtain ⟨isVerb', single'⟩ := Kind.isVerb_of_mem_verbs hq
  obtain ⟨before, rest⟩ := eq_of_escape_append
    (Directive.Spelling.head?_tail_append_ne single _)
    (Directive.Spelling.head?_tail_append_ne single' _) h
  obtain ⟨directive, after⟩ := Directive.Spelling.eq_of_tail_append isVerb isVerb' rest
  cases p
  cases q
  cases before
  cases directive
  cases escape_injective after
  rfl

structure Pattern.Suits (p : Pattern) (v : Value) : Prop where
  fits : p.directive.directive.Fits
  verb : p.directive.verb ∈ v.resolved.kind.verbs

end Format

open Format (Pattern)

theorem formatValue_eq_ok_iff {pattern out : String} {v : Value} :
    formatValue pattern v = .ok out
      ↔ ∃ s, Format.expand v.resolved false pattern.toList = .ok s ∧ out = String.ofList s := by
  rw [formatValue]
  cases Format.expand v.resolved false pattern.toList <;> simp [eq_comm]

theorem formatValue_of_suits {pattern : String} {v : Value} {p : Pattern} {shown : List Char}
    (parts : p.text = pattern.toList) (suits : p.Suits v)
    (text : p.directive.directive.text v.resolved = .ok shown) :
    formatValue pattern v = .ok (String.ofList (p.fill shown)) := by
  have expanded := p.expand_text v.resolved (Kind.isVerb_of_mem_verbs suits.verb)
  rw [if_pos suits.fits, text, parts] at expanded
  exact formatValue_eq_ok_iff.2 ⟨_, expanded, rfl⟩

def Directive.Spelling.pattern (d : Directive.Spelling) : Pattern := ⟨[], d, []⟩

theorem Directive.Spelling.text_pattern (d : Directive.Spelling) : d.pattern.text = d.text := by
  simp [pattern, Pattern.text, Format.escape]

theorem formatValue_text {d : Directive.Spelling} {v : Value} {shown : List Char}
    (verb : d.verb ∈ v.resolved.kind.verbs) (fits : d.directive.Fits)
    (text : d.directive.text v.resolved = .ok shown) :
    formatValue (String.ofList d.text) v = .ok (String.ofList (d.directive.fill shown)) := by
  have parts : d.pattern.text = (String.ofList d.text).toList := by
    rw [d.text_pattern, String.toList_ofList]
  have written := formatValue_of_suits parts ⟨fits, verb⟩ text
  simpa [Format.Pattern.fill, Directive.Spelling.pattern] using written

theorem formatValue_text_tooWide {d : Directive.Spelling} {v : Value}
    (verb : d.verb ∈ v.resolved.kind.verbs) (large : ¬d.directive.Fits) :
    formatValue (String.ofList d.text) v = .error (.format .tooWide (String.ofList d.text)) := by
  have expanded := d.pattern.expand_text v.resolved (Kind.isVerb_of_mem_verbs verb)
  rw [if_neg (show ¬d.pattern.directive.directive.Fits from large), d.text_pattern] at expanded
  rw [formatValue, String.toList_ofList, expanded]

theorem Format.Pattern.Suits.exists_text {p : Pattern} {v : Value} (h : p.Suits v) :
    ∃ shown, p.directive.directive.text v.resolved = .ok shown :=
  (p.directive.directive.exists_text_iff v.resolved).2 h.verb

theorem exists_pattern_of_formatValue {pattern out : String} {v : Value}
    (h : formatValue pattern v = .ok out) : ∃ (p : Pattern) (shown : List Char),
      p.text = pattern.toList ∧ p.Suits v ∧ p.directive.directive.text v.resolved = .ok shown
      ∧ out = String.ofList (p.fill shown) := by
  obtain ⟨s, expanded, rfl⟩ := formatValue_eq_ok_iff.1 h
  obtain ⟨p, shown, parts, fits, text, rfl⟩ := Format.expands_of_expand expanded
  have verb := (p.directive.directive.exists_text_iff v.resolved).1 ⟨shown, text⟩
  exact ⟨p, shown, parts.symm, ⟨fits, verb⟩, text, rfl⟩

/-- A pattern is written out exactly where it is text around one directive that suits the value. It
has these parts in one way only, and its text is kept. Any other pattern is a fault. -/
theorem formatValue_exact (pattern : String) (v : Value) :
    (∀ out, formatValue pattern v = .ok out ↔ ∃ (p : Pattern) (shown : List Char),
      p.text = pattern.toList ∧ p.Suits v ∧ p.directive.directive.text v.resolved = .ok shown
      ∧ out = String.ofList (p.before ++ (p.directive.directive.fill shown ++ p.after)))
    ∧ (∀ p : Pattern, p.text = pattern.toList → p.Suits v →
      ∃ out, formatValue pattern v = .ok out)
    ∧ (∀ p q : Pattern, p.text = pattern.toList → q.text = pattern.toList →
      p.Suits v → q.Suits v → p = q)
    ∧ ((∀ p : Pattern, p.text = pattern.toList → ¬p.Suits v) →
      ∃ fault, formatValue pattern v = .error (.format fault pattern)) := by
  refine ⟨?_, ?_, ?_, ?_⟩
  · intro out
    constructor
    · exact exists_pattern_of_formatValue
    · rintro ⟨p, shown, parts, suits, text, rfl⟩
      exact formatValue_of_suits parts suits text
  · intro p parts suits
    obtain ⟨shown, text⟩ := suits.exists_text
    exact ⟨_, formatValue_of_suits parts suits text⟩
  · intro p q parts parts' suits suits'
    exact Pattern.eq_of_text_eq suits.verb suits'.verb (parts.trans parts'.symm)
  · intro unsuited
    cases h : formatValue pattern v with
    | ok out =>
      obtain ⟨p, -, parts, suits, -⟩ := exists_pattern_of_formatValue h
      exact absurd suits (unsuited p parts)
    | error e =>
      rw [formatValue] at h
      split at h
      · cases h
      · next fault _ =>
        cases h
        exact ⟨fault, rfl⟩

theorem formatValue_exact_percent :
    (formatValue "%%%+05d%%" (.present (.integer 42)) = .ok "%+0042%"
      ∧ ∃ p : Pattern, p.text = "%%%+05d%%".toList ∧ p.Suits (.present (.integer 42)))
    ∧ ∃ fault, formatValue "%5%" (.integer 1) = .error (.format fault "%5%") := by
  let d : Directive.Spelling := ⟨['+', '0'], ['5'], none, 'd', by simp [Directive.isFlag], by simp,
    by simp, nofun⟩
  let p : Pattern := ⟨['%'], d, ['%']⟩
  have parts : p.text = "%%%+05d%%".toList := by decide
  have suits : p.Suits (.present (.integer 42)) := ⟨by decide, by decide⟩
  have shown : d.directive.text (.integer 42) = .ok "+42".toList := by decide
  have refused : formatValue "%5%" (.integer 1)
      = .error (.format (.unknownVerb '%') "%5%") := by decide +kernel
  have unsuited : ∀ p : Pattern, p.text = "%5%".toList → ¬p.Suits (.integer 1) := by
    intro p parts suits
    obtain ⟨out, written⟩ := (formatValue_exact "%5%" (.integer 1)).2.1 p parts suits
    rw [refused] at written
    cases written
  refine ⟨⟨?_, p, parts, suits⟩, (formatValue_exact "%5%" (.integer 1)).2.2.2 unsuited⟩
  have written := ((formatValue_exact "%%%+05d%%" (.present (.integer 42))).1 _).2
    ⟨p, _, parts, suits, shown, rfl⟩
  exact written

end SqlTemplate
