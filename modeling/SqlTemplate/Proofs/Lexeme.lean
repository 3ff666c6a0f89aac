import SqlTemplate.Proofs.Reading

namespace SqlTemplate

namespace Condition

open Text (view skipGap Starts)

variable {α : Type} {word : String} {s t r : List Char}

theorem view_mark?_eq_some_iff (ne : word.toList ≠ []) :
    view (mark? word s) = some ((), r) ↔ Mark word (skipGap s) r := by
  rw [mark?, Text.view_skipAfter, Option.map_eq_some_iff]
  constructor
  · rintro ⟨⟨⟨⟩, t⟩, read, ⟨⟩⟩
    obtain ⟨w, front, spelled⟩ := (Text.view_readWord?_eq_some_iff ne).1 read
    have same : word.toList = w := by simpa [beq_iff_eq] using spelled
    exact ⟨t, same ▸ front, rfl⟩
  · rintro ⟨t, front, rfl⟩
    refine ⟨((), t), (Text.view_readWord?_eq_some_iff ne).2 ⟨_, front, ?_⟩, rfl⟩
    simp [beq_iff_eq]

theorem forall₂_toLower_iff {l w : List Char} :
    List.Forall₂ (fun a c => (c.toLower == a) = true) l w ↔ w.map Char.toLower = l := by
  have beq_iff (a c : Char) : (c.toLower == a) = true ↔ a = c.toLower := by
    rw [beq_iff_eq, eq_comm]
  simp only [beq_iff]
  rw [← List.forall₂_map_right_iff, List.forall₂_eq_eq_eq, eq_comm]

theorem view_keyword? (word : String) (s : List Char) :
    view (keyword? word s)
      = (view (Text.readWord? (fun w c => c.toLower == w) word.toList s)).filter
      fun (_, t) => !t.head?.any isWordChar := by
  rw [keyword?]
  cases Text.readWord? (fun w c => c.toLower == w) word.toList s with
  | none => rfl
  | some x =>
    simp only [Option.bind_eq_bind, Option.bind_some, view, Option.map_some, Option.filter_some]
    cases x.rest.head?.any isWordChar <;> rfl

theorem view_keyword?_eq_some_iff (ne : word.toList ≠ []) :
    view (keyword? word s) = some ((), t) ↔ Keyword word s t := by
  have ends_iff : (!t.head?.any isWordChar) = true ↔ EndsWord t := by
    cases t <;> simp [EndsWord]
  rw [view_keyword?, Option.filter_eq_some_iff, Text.view_readWord?_eq_some_iff ne, ends_iff]
  simp only [forall₂_toLower_iff, Keyword, ← exists_and_right, and_assoc]

theorem view_wordMark?_eq_some_iff (ne : word.toList ≠ []) :
    view (wordMark? word s) = some ((), r) ↔ WordMark word (skipGap s) r := by
  rw [wordMark?, Text.view_skipAfter, Option.map_eq_some_iff]
  constructor
  · rintro ⟨⟨⟨⟩, t⟩, read, ⟨⟩⟩
    exact ⟨t, (view_keyword?_eq_some_iff ne).1 read, rfl⟩
  · rintro ⟨t, spelled, rfl⟩
    exact ⟨((), t), (view_keyword?_eq_some_iff ne).2 spelled, rfl⟩

theorem view_firstMark?_cons (a : α) (marks : List (String × α)) (s : List Char) :
    view (firstMark? ((word, a) :: marks) s)
      = ((view (mark? word s)).map fun (_, r) => (a, r)).or (view (firstMark? marks s)) := by
  simp only [firstMark?, List.findSome?_cons]
  cases mark? word s <;> rfl

theorem exists_mark_of_firstMark? {a : α} {marks : List (String × α)}
    (ne : ∀ m ∈ marks, m.1.toList ≠ []) (h : view (firstMark? marks s) = some (a, r)) :
    ∃ word, (word, a) ∈ marks ∧ Mark word (skipGap s) r := by
  induction marks with
  | nil => simp [firstMark?, view] at h
  | cons m marks ih =>
    obtain ⟨first, ne⟩ := List.forall_mem_cons.1 ne
    rw [view_firstMark?_cons, Option.or_eq_some_iff] at h
    rcases h with h | ⟨-, h⟩
    · obtain ⟨⟨⟨⟩, t⟩, read, ⟨⟩⟩ := Option.map_eq_some_iff.1 h
      exact ⟨m.1, List.mem_cons_self, (view_mark?_eq_some_iff first).1 read⟩
    · obtain ⟨word, found, mark⟩ := ih ne h
      exact ⟨word, List.mem_cons_of_mem m found, mark⟩

theorem continuesName_of_isWordChar {c : Char} (h : isWordChar c) : continuesName c := by
  simp only [isWordChar, continuesName, Bool.or_eq_true] at h ⊢
  exact h.imp_left Text.isAlphanumeric_of_isAlphanum

theorem continuesName_of_lt {c : Char} (h : c.toNat < 128) : continuesName c = isWordChar c := by
  have beyond : Text.Ranges.contains (Text.alphanumericRanges.drop 3) c = false :=
    Text.Ranges.not_contains_of_lt h (by decide +kernel)
  have ascii : ∀ n < 128, ((Char.ofNat n).isAlphanum
      || Text.Ranges.contains (Text.alphanumericRanges.take 3) (Char.ofNat n))
        = (Char.ofNat n).isAlphanum := by
    decide +kernel
  have split : Text.alphanumericRanges.contains c
      = (Text.Ranges.contains (Text.alphanumericRanges.take 3) c
        || Text.Ranges.contains (Text.alphanumericRanges.drop 3) c) := by
    rw [Text.Ranges.contains, Text.Ranges.contains, Text.Ranges.contains, ← List.any_append,
      List.take_append_drop]
  have same := ascii c.toNat h
  rw [Char.ofNat_toNat] at same
  rw [continuesName, isWordChar, Text.isAlphanumeric, split, beyond, Bool.or_false, same]

theorem endsWord_of_stop (h : ∀ c ∈ t.head?, continuesName c = false) : EndsWord t := fun c found =>
  Bool.eq_false_iff.2 fun word =>
    Bool.eq_false_iff.1 (h c found) (continuesName_of_isWordChar word)

theorem view_identifier?_eq_some_iff {name : String} :
    view (identifier? s) = some (name, t)
      ↔ s = name.toList ++ t ∧ IsName name.toList ∧ ∀ c ∈ t.head?, continuesName c = false := by
  constructor
  · intro h
    cases s with
    | nil => simp [identifier?, view] at h
    | cons c s =>
      simp only [identifier?] at h
      split at h
      · next starts =>
        cases h
        refine ⟨by simp, ⟨c, s.takeWhile continuesName, by simp, starts, ?_⟩,
          fun _ => Text.head?_dropWhile_eq_false⟩
        exact fun _ => List.mem_takeWhile_imp
      · simp [view] at h
  · rintro ⟨rfl, ⟨c, cs, same, starts, continues⟩, stop⟩
    obtain ⟨taken, dropped⟩ := Text.takeWhile_append_of_stop continues stop
    rw [same, List.cons_append, identifier?, if_pos starts]
    simp only [view, Option.map_some, taken, dropped, ← same, String.ofList_toList]

def dotRun? (p : Char → Bool) (s : List Char) : Option (Text.Reading (List Char) s) :=
  (Text.readChar? (· == '.') s).bind fun dot => (Text.readRun? p dot.rest).map dot.after

theorem view_dotRun?_eq_some_iff {p : Char → Bool} {w : List Char} :
    view (dotRun? p s) = some (w, r)
      ↔ s = '.' :: (w ++ r) ∧ w ≠ [] ∧ (∀ c ∈ w, p c) ∧ ∀ c ∈ r.head?, p c = false := by
  rw [dotRun?, Text.view_bind_after]
  simp only [Option.bind_eq_some_iff, Prod.exists, Text.view_readChar?_eq_some_iff,
    Text.view_readRun?_eq_some_iff]
  constructor
  · rintro ⟨c, t, ⟨rfl, rfl⟩, ne, all, rfl, stop⟩
    exact ⟨rfl, ne, all, stop⟩
  · rintro ⟨rfl, ne, all, stop⟩
    exact ⟨'.', w ++ r, ⟨rfl, rfl⟩, ne, all, rfl, stop⟩

theorem dotRun?_eq_none {p : Char → Bool} (h : ∀ c ∈ s.head?, c ≠ '.') : dotRun? p s = none := by
  cases s with
  | nil => rfl
  | cons c s => simp [dotRun?, Text.readChar?, h c rfl]

theorem segments_cons {w : List Char} (h : view (dotRun? isWordChar s) = some (w, r)) :
    (segments s).value = '.' :: w ++ (segments r).value
      ∧ (segments s).rest = (segments r).rest := by
  obtain ⟨x, found, rfl, rfl⟩ := Text.view_eq_some h
  rw [dotRun?] at found
  rw [segments, found]
  exact ⟨rfl, rfl⟩

theorem segments_nil (h : dotRun? isWordChar s = none) : segments s = ⟨[], s, List.suffix_rfl⟩ := by
  rw [dotRun?] at h
  rw [segments, h]

theorem exists_segments (s : List Char) : ∃ ws : List (List Char),
    (segments s).value = ws.flatMap ('.' :: ·) ∧ s = (segments s).value ++ (segments s).rest
      ∧ (∀ w ∈ ws, IsSegment w) ∧ (EndsWord s → EndsWord (segments s).rest) := by
  cases found : dotRun? isWordChar s with
  | none =>
    rw [segments_nil found]
    exact ⟨[], rfl, rfl, nofun, id⟩
  | some x =>
    have read : view (dotRun? isWordChar s) = some (x.value, x.rest) := by rw [found]; rfl
    obtain ⟨front, ne, all, ends⟩ := view_dotRun?_eq_some_iff.1 read
    obtain ⟨value, rest⟩ := segments_cons read
    obtain ⟨ws, more, split, words, still⟩ := exists_segments x.rest
    refine ⟨x.value :: ws, by simp [value, more], ?_, List.forall_mem_cons.2 ⟨⟨ne, all⟩, words⟩,
      fun _ => rest ▸ still ends⟩
    rw [value, rest, List.append_assoc, ← split]
    exact front
termination_by s.length
decreasing_by exact x.follows.length_lt

theorem segments_append {ws : List (List Char)} (words : ∀ w ∈ ws, IsSegment w)
    (ends : EndsWord t) (stop : ∀ c ∈ t.head?, c ≠ '.') :
    (segments (ws.flatMap ('.' :: ·) ++ t)).value = ws.flatMap ('.' :: ·)
      ∧ (segments (ws.flatMap ('.' :: ·) ++ t)).rest = t := by
  induction ws with
  | nil =>
    rw [List.flatMap_nil, List.nil_append, segments_nil (dotRun?_eq_none stop)]
    exact ⟨rfl, rfl⟩
  | cons w ws ih =>
    obtain ⟨word, words⟩ := List.forall_mem_cons.1 words
    obtain ⟨value, rest⟩ := ih words
    have ends : EndsWord (ws.flatMap ('.' :: ·) ++ t) := by
      cases ws with
      | nil => exact ends
      | cons v ws => exact fun c found => by cases found; decide
    have read : view (dotRun? isWordChar ('.' :: (w ++ (ws.flatMap ('.' :: ·) ++ t))))
        = some (w, ws.flatMap ('.' :: ·) ++ t) :=
      view_dotRun?_eq_some_iff.2 ⟨rfl, word.1, word.2, ends⟩
    have more := segments_cons read
    rw [value, rest] at more
    rw [show (w :: ws).flatMap ('.' :: ·) ++ t = '.' :: (w ++ (ws.flatMap ('.' :: ·) ++ t)) by simp]
    simpa using more

theorem view_paramPath? (s : List Char) :
    view (paramPath? s) = (view (identifier? s)).bind fun (name, r) =>
      if isReserved name then none
      else some (name ++ String.ofList (segments r).value, (segments r).rest) := by
  rw [paramPath?]
  cases identifier? s with
  | none => rfl
  | some name =>
    simp only [Option.bind_eq_bind, Option.bind_some, view, Option.map_some]
    split <;> rfl

theorem path_of_paramPath? {path : String} (h : view (paramPath? s) = some (path, t)) :
    Path path s t := by
  rw [view_paramPath?, Option.bind_eq_some_iff] at h
  obtain ⟨⟨name, r⟩, named, kept⟩ := h
  obtain ⟨rfl, isName, stop⟩ := view_identifier?_eq_some_iff.1 named
  dsimp only at kept
  split at kept
  · cases kept
  · next free =>
    cases kept
    obtain ⟨ws, more, split, words, ends⟩ := exists_segments r
    refine ⟨?_, ⟨name.toList, ws, ?_, isName, ?_, words⟩, ends (endsWord_of_stop stop)⟩
    · simpa using split
    · simp [more]
    · simpa using free

theorem view_paramPath?_of_path {path : String} (h : Path path s t)
    (stop : ∀ c ∈ t.head?, continuesName c = false ∧ c ≠ '.') :
    view (paramPath? s) = some (path, t) := by
  obtain ⟨rfl, ⟨name, ws, whole, isName, free, words⟩, ends⟩ := h
  have named : view (identifier? (path.toList ++ t))
      = some (String.ofList name, ws.flatMap ('.' :: ·) ++ t) := by
    refine view_identifier?_eq_some_iff.2 ⟨by simp [whole], by simpa using isName, ?_⟩
    cases ws with
    | nil => exact fun c found => (stop c found).1
    | cons w ws =>
      rintro - ⟨⟩
      exact continuesName_of_lt (by decide)
  obtain ⟨value, rest⟩ := segments_append words ends fun c found => (stop c found).2
  rw [view_paramPath?, named, Option.bind_some]
  simp only [free, Bool.false_eq_true, if_false, value, rest]
  rw [← String.ofList_append, ← whole, String.ofList_toList]

theorem places?_eq (s : List Char) : places? s = dotRun? Char.isDigit s := by
  simp only [places?, dotRun?, Option.map_eq_bind]
  rfl

theorem view_readRun?_eq_none {p : Char → Bool} (h : ∀ c ∈ s.head?, p c = false) :
    view (Text.readRun? p s) = none := by
  cases s with
  | nil => rfl
  | cons c s => simp [Text.readRun?, h c rfl, view]

theorem view_number? (s : List Char) :
    view (number? s) = (view (Text.readRun? Char.isDigit s)).bind fun (whole, r) =>
      match view (dotRun? Char.isDigit r) with
      | some (places, u) => some (.real (decimal whole places), u)
      | none =>
        if isInteger64 (Nat.ofDigitChars 10 whole 0)
        then some (.integer (Nat.ofDigitChars 10 whole 0), r) else none := by
  rw [number?]
  cases Text.readRun? Char.isDigit s with
  | none => rfl
  | some whole =>
    simp only [Option.bind_eq_bind, Option.bind_some, view, Option.map_some, places?_eq]
    cases dotRun? Char.isDigit whole.rest with
    | none =>
      simp only [Option.map_none]
      split <;> rfl
    | some places => rfl

theorem literal_of_number? {v : Value} (h : view (number? s) = some (v, t)) : Literal s v t := by
  rw [view_number?, Option.bind_eq_some_iff] at h
  obtain ⟨⟨whole, r⟩, run, kept⟩ := h
  obtain ⟨ne, all, rfl, -⟩ := Text.view_readRun?_eq_some_iff.1 run
  dsimp only at kept
  split at kept
  · next places u found =>
    obtain ⟨rfl, ne', all', -⟩ := view_dotRun?_eq_some_iff.1 found
    cases kept
    exact .real ⟨ne, all⟩ ⟨ne', all'⟩
  · split at kept
    · next fits =>
      cases kept
      exact .integer ⟨ne, all⟩ fits
    · cases kept

theorem view_number?_integer {digits : List Char} (isDigits : IsDigits digits)
    (fits : isInteger64 (Nat.ofDigitChars 10 digits 0))
    (stop : ∀ c ∈ t.head?, c.isDigit = false ∧ c ≠ '.') :
    view (number? (digits ++ t)) = some (.integer (Nat.ofDigitChars 10 digits 0), t) := by
  have run : view (Text.readRun? Char.isDigit (digits ++ t)) = some (digits, t) :=
    Text.view_readRun?_eq_some_iff.2 ⟨isDigits.1, isDigits.2, rfl, fun c found => (stop c found).1⟩
  rw [view_number?, run, Option.bind_some]
  dsimp only
  rw [dotRun?_eq_none fun c found => (stop c found).2]
  exact if_pos fits

theorem view_number?_real {whole places : List Char} (isWhole : IsDigits whole)
    (isPlaces : IsDigits places) (stop : ∀ c ∈ t.head?, c.isDigit = false) :
    view (number? (whole ++ '.' :: (places ++ t))) = some (.real (decimal whole places), t) := by
  have run : view (Text.readRun? Char.isDigit (whole ++ '.' :: (places ++ t)))
      = some (whole, '.' :: (places ++ t)) := by
    refine Text.view_readRun?_eq_some_iff.2 ⟨isWhole.1, isWhole.2, rfl, ?_⟩
    rintro - ⟨⟩
    decide
  have behind : view (dotRun? Char.isDigit ('.' :: (places ++ t))) = some (places, t) :=
    view_dotRun?_eq_some_iff.2 ⟨rfl, isPlaces.1, isPlaces.2, stop⟩
  rw [view_number?, run, Option.bind_some]
  dsimp only
  rw [behind]

theorem view_quoted? (quote : Char) (s : List Char) :
    view (quoted? quote s) = (view (Text.readChar? (· == quote) s)).bind fun (_, r) =>
      (view (Text.readChar? (· == quote) (r.dropWhile (· != quote)))).map fun (_, u) =>
        (.text (String.ofList (r.takeWhile (· != quote))), u) := by
  rw [quoted?]
  cases Text.readChar? (· == quote) s with
  | none => rfl
  | some opening =>
    simp only [Option.bind_eq_bind, Option.bind_some, view, Option.map_some]
    cases Text.readChar? (· == quote) (opening.rest.dropWhile (· != quote)) <;> rfl

theorem view_quoted?_eq_some_iff {quote : Char} {v : Value} :
    view (quoted? quote s) = some (v, t) ↔ ∃ content, s = quote :: (content ++ quote :: t)
      ∧ quote ∉ content ∧ v = .text (String.ofList content) := by
  rw [view_quoted?]
  simp only [Option.bind_eq_some_iff, Option.map_eq_some_iff, Prod.exists,
    Text.view_readChar?_eq_some_iff]
  constructor
  · rintro ⟨c, r, ⟨rfl, rfl⟩, d, u, ⟨rfl, behind⟩, same⟩
    cases same
    refine ⟨r.takeWhile (· != d), ?_, fun found => ?_, rfl⟩
    · rw [← behind, List.takeWhile_append_dropWhile]
    · simpa using List.mem_takeWhile_imp found
  · rintro ⟨content, rfl, absent, rfl⟩
    have all : ∀ c ∈ content, (c != quote) = true := fun c found =>
      bne_iff_ne.2 fun same => absent (same ▸ found)
    obtain ⟨taken, dropped⟩ := Text.takeWhile_append_of_stop (t := quote :: t) all (by simp)
    exact ⟨quote, _, ⟨rfl, rfl⟩, quote, t, ⟨rfl, dropped⟩, by rw [taken]⟩

theorem view_literal? (s : List Char) :
    view (literal? s) = (view (number? s)).or
      ((view (quoted? '\'' s)).or ((view (quoted? '"' s)).or
        (((view (keyword? "true" s)).map fun (_, t) => (.boolean true, t)).or
          (((view (keyword? "false" s)).map fun (_, t) => (.boolean false, t)).or
            (((view (keyword? "nil" s)).map fun (_, t) => (.null, t)).or
              ((view (keyword? "null" s)).map fun (_, t) => (.null, t))))))) := by
  simp only [literal?, Text.view_orElse, Text.view_map]

theorem literal_of_literal? {v : Value} (h : view (literal? s) = some (v, t)) : Literal s v t := by
  simp only [view_literal?, Option.or_eq_some_iff] at h
  have keyword {word : String} {a : Value} (ne : word.toList ≠ [])
      (read : (view (keyword? word s)).map (fun (_, t) => (a, t)) = some (v, t)) :
      a = v ∧ Keyword word s t := by
    obtain ⟨⟨⟨⟩, u⟩, found, ⟨⟩⟩ := Option.map_eq_some_iff.1 read
    exact ⟨rfl, (view_keyword?_eq_some_iff ne).1 found⟩
  rcases h with h | ⟨-, h | ⟨-, h | ⟨-, h | ⟨-, h | ⟨-, h | ⟨-, h⟩⟩⟩⟩⟩⟩
  · exact literal_of_number? h
  · obtain ⟨content, rfl, absent, rfl⟩ := view_quoted?_eq_some_iff.1 h
    exact .text (.inl rfl) absent
  · obtain ⟨content, rfl, absent, rfl⟩ := view_quoted?_eq_some_iff.1 h
    exact .text (.inr rfl) absent
  · obtain ⟨rfl, word⟩ := keyword (by decide) h
    exact .true word
  · obtain ⟨rfl, word⟩ := keyword (by decide) h
    exact .false word
  · obtain ⟨rfl, word⟩ := keyword (by decide) h
    exact .nil word
  · obtain ⟨rfl, word⟩ := keyword (by decide) h
    exact .null word

theorem toNat_lt_of_isLower_toLower {c : Char} (lower : c.toLower.isLower) : c.toNat < 128 := by
  by_contra large
  rw [Text.toLower_of_not_upper (.inr (by omega))] at lower
  have last : c.val ≤ 'z'.val := of_decide_eq_true (Bool.and_eq_true_iff.1 lower).2
  exact large (Nat.lt_of_le_of_lt (UInt32.le_iff_toNat_le.1 last) (by decide))

theorem letter_of_isLower_toLower {c : Char} (lower : c.toLower.isLower) :
    startsName c ∧ isWordChar c ∧ upper c = c.toLower.toUpper
      ∧ (c = c.toLower ∨ c = c.toLower.toUpper) := by
  have all : ∀ n < 128, (Char.ofNat n).toLower.isLower → startsName (Char.ofNat n)
      ∧ isWordChar (Char.ofNat n) ∧ upper (Char.ofNat n) = (Char.ofNat n).toLower.toUpper
      ∧ (Char.ofNat n = (Char.ofNat n).toLower
        ∨ Char.ofNat n = (Char.ofNat n).toLower.toUpper) := by
    decide +kernel
  have letter := all c.toNat (toNat_lt_of_isLower_toLower lower)
  rw [Char.ofNat_toNat] at letter
  exact letter lower

def keywords : List String := ["and", "or", "not", "in", "true", "false", "nil", "null"]

theorem isLower_of_mem_keywords (known : word ∈ keywords) : ∀ d ∈ word.toList, d.isLower := by
  have all : ∀ word ∈ keywords, word.toList.all Char.isLower := by decide +kernel
  exact List.all_eq_true.1 (all word known)

theorem toList_ne_nil_of_mem_keywords : ∀ word ∈ keywords, word.toList ≠ [] := by
  decide +kernel

theorem isReserved_of_mem_keywords : ∀ word ∈ keywords,
    reservedWords.contains (String.ofList (word.toList.map Char.toUpper)) := by
  decide +kernel

theorem Keyword.run_spelled (h : Keyword word s t) (known : word ∈ keywords) :
    (s.takeWhile isWordChar).map Char.toLower = word.toList
      ∧ (s.takeWhile isWordChar).map upper = word.toList.map Char.toUpper := by
  obtain ⟨w, rfl, spelled, ends⟩ := h
  have letter (c : Char) (found : c ∈ w) := letter_of_isLower_toLower
    (isLower_of_mem_keywords known _ (spelled ▸ List.mem_map_of_mem found))
  rw [(Text.takeWhile_append_of_stop (fun c found => (letter c found).2.1) ends).1]
  refine ⟨spelled, ?_⟩
  rw [← spelled, List.map_map]
  exact List.map_congr_left fun c found => (letter c found).2.2.1

theorem Keyword.starts (h : Keyword word s t) (known : word ∈ keywords) :
    Starts (fun c => startsName c ∧ ∃ d ∈ word.toList.head?, c = d ∨ c = d.toUpper) s := by
  obtain ⟨w, rfl, spelled, -⟩ := h
  cases w with
  | nil => exact absurd spelled.symm (toList_ne_nil_of_mem_keywords _ known)
  | cons c w =>
    have letter := letter_of_isLower_toLower
      (isLower_of_mem_keywords known c.toLower (by simp [← spelled]))
    exact ⟨c, rfl, letter.1, c.toLower, by simp [← spelled], letter.2.2.2⟩

theorem Keyword.view_keyword? {other : String} (h : Keyword word s t) (known : word ∈ keywords)
    (known' : other ∈ keywords) :
    view (keyword? other s) = if other = word then some ((), t) else none := by
  have ne := toList_ne_nil_of_mem_keywords other known'
  split
  · next same => exact (view_keyword?_eq_some_iff ne).2 (same ▸ h)
  · next different =>
    refine Option.eq_none_iff_forall_ne_some.2 fun (_, t') read => different ?_
    have h' := (view_keyword?_eq_some_iff ne).1 read
    exact String.toList_inj.1 ((h'.run_spelled known').1.symm.trans (h.run_spelled known).1)

theorem view_keyword?_of_free (free : isReserved (String.ofList (s.takeWhile isWordChar)) = false)
    (known : word ∈ keywords) : view (keyword? word s) = none := by
  refine Option.eq_none_iff_forall_ne_some.2 fun (_, t) read => ?_
  have h := (view_keyword?_eq_some_iff (toList_ne_nil_of_mem_keywords word known)).1 read
  have listed := isReserved_of_mem_keywords word known
  rw [isReserved, String.toList_ofList, (h.run_spelled known).2, listed] at free
  cases free

theorem isDigit_of_startsName {c : Char} (h : startsName c) : c.isDigit = false := by
  have digits : ∀ n < 58, 48 ≤ n → startsName (Char.ofNat n) = false := by decide
  refine Bool.eq_false_iff.2 fun digit => ?_
  obtain ⟨first, last⟩ := Char.isDigit_iff_toNat.1 digit
  have stops := digits c.toNat (Nat.lt_succ_of_le last) first
  rw [Char.ofNat_toNat, h] at stops
  cases stops

theorem view_number?_eq_none (h : ∀ c ∈ s.head?, c.isDigit = false) :
    view (number? s) = none := by
  rw [view_number?, view_readRun?_eq_none h, Option.bind_none]

theorem view_quoted?_eq_none {quote : Char} (h : ∀ c ∈ s.head?, c ≠ quote) :
    view (quoted? quote s) = none := by
  cases s with
  | nil => rfl
  | cons c s => simp [view_quoted?, Text.view_readChar?, h c rfl]

theorem view_literal?_of_startsName (starts : ∀ c ∈ s.head?, startsName c) :
    view (literal? s) = ((view (keyword? "true" s)).map fun (_, t) => (.boolean true, t)).or
      (((view (keyword? "false" s)).map fun (_, t) => (.boolean false, t)).or
        (((view (keyword? "nil" s)).map fun (_, t) => (.null, t)).or
          ((view (keyword? "null" s)).map fun (_, t) => (.null, t)))) := by
  have unquoted (quote : Char) (h : startsName quote = false) : view (quoted? quote s) = none :=
    view_quoted?_eq_none fun c found same => by simp [← same, starts c found] at h
  rw [view_literal?, view_number?_eq_none fun c found => isDigit_of_startsName (starts c found),
    unquoted '\'' (by decide), unquoted '"' (by decide)]
  rfl

theorem view_literal?_of_free (starts : ∀ c ∈ s.head?, startsName c)
    (free : isReserved (String.ofList (s.takeWhile isWordChar)) = false) :
    view (literal? s) = none := by
  rw [view_literal?_of_startsName starts]
  simp (disch := decide) only [view_keyword?_of_free free]
  rfl

theorem view_literal?_of_literal {v : Value} (h : Literal s v t)
    (stop : ∀ c ∈ t.head?, c.isDigit = false ∧ c ≠ '.') : view (literal? s) = some (v, t) := by
  cases h with
  | integer digits fits =>
    rw [view_literal?, view_number?_integer digits fits stop, Option.some_or]
  | real whole places =>
    rw [view_literal?, view_number?_real whole places fun c found => (stop c found).1,
      Option.some_or]
  | text isQuote absent =>
    have read := view_quoted?_eq_some_iff (t := t).2 ⟨_, rfl, absent, rfl⟩
    rw [view_literal?]
    rcases isQuote with rfl | rfl
    · rw [view_number?_eq_none (by rintro - ⟨⟩; decide), read]
      rfl
    · rw [view_number?_eq_none (by rintro - ⟨⟩; decide),
        view_quoted?_eq_none (by rintro - ⟨⟩; decide), read]
      rfl
  | true word | false word | nil word | null word =>
    have starts := (word.starts (by decide)).imp And.left
    rw [view_literal?_of_startsName starts.forall]
    simp (disch := decide) only [word.view_keyword?]
    rfl

end Condition
end SqlTemplate
