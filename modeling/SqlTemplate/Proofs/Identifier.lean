import SqlTemplate.Proofs.Grammar

namespace SqlTemplate.Condition

open Text (view skipGap Starts)

def literalWords : List String := ["true", "false", "nil", "null"]

theorem mem_keywords : ∀ word ∈ literalWords, word ∈ keywords := by decide

def Foreign (c : Char) : Prop := continuesName c ∧ isWordChar c = false

variable {l : Level} {e : Expr} {name test word : String} {s t r : List Char} {c : Char}

theorem Foreign.le_toNat (h : Foreign c) : 128 ≤ c.toNat := by
  by_contra small
  have same := continuesName_of_lt (Nat.lt_of_not_le small)
  rw [h.1, h.2] at same
  cases same

theorem Foreign.ne {d : Char} (h : Foreign c) (ascii : d.toNat < 128) : c ≠ d := by
  rintro rfl
  exact absurd ascii (Nat.not_lt.2 h.le_toNat)

theorem Foreign.not_isGap (h : Foreign c) : Text.isGap c = false := by
  refine Bool.eq_false_iff.2 fun gap => ?_
  rcases eq_of_isGap gap with same | same | same | same <;> exact h.ne (by decide) same

theorem Foreign.notMem_signs (h : Foreign c) (l : Level) : c ∉ l.signs := by
  intro sign
  have ascii : l.signs.all fun d => d.toNat < 128 := by cases l <;> decide
  have small := List.all_eq_true.1 ascii c sign
  exact h.ne (of_decide_eq_true small) rfl

theorem isWordChar_of_startsName (h : startsName c) : isWordChar c := by
  simp only [startsName, isWordChar, Char.isAlphanum, Bool.or_eq_true] at h ⊢
  exact h.imp_left .inl

theorem Foreign.not_isDigit (h : Foreign c) : c.isDigit = false := by
  refine Bool.eq_false_iff.2 fun digit => ?_
  have word := h.2
  simp [isWordChar, Char.isAlphanum, digit] at word

theorem Foreign.not_startsName (h : Foreign c) : startsName c = false := by
  refine Bool.eq_false_iff.2 fun starts => ?_
  have word := isWordChar_of_startsName starts
  rw [h.2] at word
  cases word

theorem Foreign.not_opensPhrase (h : Foreign c) : opensPhrase c = false := by
  have other {d : Char} (ascii : d.toNat < 128) : (c == d) = false :=
    beq_eq_false_iff_ne.2 (h.ne ascii)
  simp (disch := decide) only [opensPhrase, opensOperand, opensWord, h.not_isDigit,
    h.not_startsName, other, Bool.or_false]

theorem Keyword.foreign (h : Keyword word name.toList t) (known : word ∈ keywords)
    (isName : IsName name.toList) (free : isReserved name = false) : Starts Foreign t := by
  obtain ⟨run, spelled⟩ := h.run_spelled known
  obtain ⟨w, front, lower, ends⟩ := h
  cases t with
  | nil =>
    rw [List.append_nil] at front
    have length := congrArg List.length (run.trans (front ▸ lower).symm)
    have whole := (List.takeWhile_prefix isWordChar).eq_of_length (by simpa using length)
    rw [isReserved, ← whole, spelled, isReserved_of_mem_keywords word known] at free
    cases free
  | cons c t =>
    refine ⟨c, rfl, ?_, ends c rfl⟩
    obtain ⟨d, ds, same, starts, continues⟩ := isName
    have found : c ∈ d :: ds := by simp [← same, front]
    rcases List.mem_cons.1 found with rfl | found
    · exact continuesName_of_isWordChar (isWordChar_of_startsName starts)
    · exact continues c found

theorem read_eq_none_of_foreign (starts : Starts Foreign s) : read l s = none := by
  refine Option.eq_none_iff_forall_ne_some.2 fun (e, r) found => ?_
  have gap : skipGap s = s := skipGap_eq_self (starts.imp Foreign.not_isGap)
  have phrase := derives s l e r found
  rw [gap] at phrase
  obtain ⟨c, head, opens⟩ := phrase.starts
  rw [(starts.forall c head).not_opensPhrase] at opens
  cases opens

theorem read_of_next (loose : Loose l) (h : read l.next s = some (e, r)) (gap : skipGap r = r)
    (stop : ∀ c ∈ r.head?, c ∉ l.signs) : read l s = some (e, r) := by
  rw [read_loose loose, h]
  exact congrArg some (goOn_eq_self gap stop e)

theorem read_of_signed (h : read .signed s = some (e, r)) (gap : skipGap r = r)
    (stop : ∀ c ∈ r.head?, ∀ l : Level, c ∉ l.signs) : read .disjunction s = some (e, r) := by
  have stop (l : Level) : ∀ c ∈ r.head?, c ∉ l.signs := fun c found => stop c found l
  have product : read .product s = some (e, r) :=
    read_of_next (by simp [Loose, Chains]) h gap (stop .product)
  have sum : read .sum s = some (e, r) :=
    read_of_next (by simp [Loose, Chains]) product gap (stop .sum)
  have comparison : read .comparison s = some (e, r) :=
    read_of_next (.inr rfl) sum gap (stop .comparison)
  have conjunction : read .conjunction s = some (e, r) :=
    read_of_next (by simp [Loose, Chains]) comparison gap (stop .conjunction)
  exact read_of_next (by simp [Loose, Chains]) conjunction gap (stop .disjunction)

theorem exists_literal_of_keyword (listed : word ∈ literalWords) (h : Keyword word s t) :
    ∃ v, Literal s v t := by
  rcases List.mem_cons.1 listed with rfl | listed
  · exact ⟨_, .true h⟩
  rcases List.mem_cons.1 listed with rfl | listed
  · exact ⟨_, .false h⟩
  rcases List.mem_cons.1 listed with rfl | listed
  · exact ⟨_, .nil h⟩
  obtain rfl := List.mem_singleton.1 listed
  exact ⟨_, .null h⟩

theorem read_of_literalWord (listed : word ∈ literalWords) (h : Keyword word s t)
    (starts : Starts Foreign t) : ∃ v, read .disjunction s = some (.literal v, t) := by
  obtain ⟨v, literal⟩ := exists_literal_of_keyword listed h
  have gap : skipGap t = t := skipGap_eq_self (starts.imp Foreign.not_isGap)
  have value := view_literal?_of_literal literal fun c found =>
    ⟨(starts.forall c found).not_isDigit, (starts.forall c found).ne (by decide)⟩
  have front : front? s = some (.literal v, t) := by
    rw [front?, value]
    rfl
  have operand := read_operand_of_front literal.starts front
  rw [gap] at operand
  refine ⟨v, read_of_signed ?_ gap fun c found => (starts.forall c found).notMem_signs⟩
  rw [read_signed, leadingSign?_eq_none_of_word literal.starts literal.view_not]
  exact operand

theorem parseTest_eq_leftover (h : read .disjunction (skipGap test.toList) = some (e, r))
    (gap : skipGap r = r) (left : r ≠ []) :
    parseTest test = .error (.testSyntax test .leftover r) := by
  obtain ⟨x, found, rfl, rfl⟩ := Text.view_eq_some h
  simp [parseTest, parse, found, gap, left]

theorem IsName.whole (h : IsName name.toList) : Name name name.toList [] :=
  ⟨(List.append_nil _).symm, h, nofun⟩

theorem IsName.skipGap_eq_self (h : IsName name.toList) : skipGap name.toList = name.toList :=
  Condition.skipGap_eq_self
    (h.whole.starts.imp fun starts => isGap_of_opensPhrase (opensPhrase_of_startsName starts))

theorem read_behind_sign {op : UnaryOp} (isName : IsName name.toList)
    (free : isReserved name = false) (sign : Prefix op name.toList t) : read .signed t = none := by
  have noMark {mark : String} {d : Char} (first : mark.toList.head? = some d)
      (closed : startsName d = false) : ¬Mark mark name.toList t := fun found => by
    have starts := isName.whole.starts.forall d (found.head?_eq first)
    rw [closed] at starts
    cases starts
  cases sign with
  | bang mark => exact absurd mark (noMark rfl (by decide))
  | minus mark => exact absurd mark (noMark rfl (by decide))
  | not word =>
    obtain ⟨u, word, rfl⟩ := word
    have starts := word.foreign (by decide) isName free
    rw [skipGap_eq_self (starts.imp Foreign.not_isGap)]
    exact read_eq_none_of_foreign starts

theorem front?_name (isName : IsName name.toList) (free : isReserved name = false)
    (clear : ∀ word ∈ literalWords, ∀ t, ¬Keyword word name.toList t) :
    front? name.toList = some (.param name, []) := by
  have noKeyword (word : String) (listed : word ∈ literalWords) (ne : word.toList ≠ []) :
      view (keyword? word name.toList) = none :=
    Option.eq_none_iff_forall_ne_some.2 fun (⟨⟩, t) found =>
      clear word listed t ((view_keyword?_eq_some_iff ne).1 found)
  have noValue : view (literal? name.toList) = none := by
    rw [view_literal?_of_startsName isName.whole.starts.forall]
    simp (disch := decide) only [noKeyword]
    rfl
  have named : view (identifier? name.toList) = some (name, []) :=
    view_identifier?_eq_some_iff.2 ⟨(List.append_nil _).symm, isName, nofun⟩
  have noList : view (arguments? []) = none := by
    rw [view_arguments?]
    rfl
  have noCall : view (call? name.toList) = none := by
    rw [view_call?, named, Option.bind_some]
    dsimp only
    rw [noList]
    rfl
  have path : Path name name.toList [] :=
    ⟨(List.append_nil _).symm, ⟨name.toList, [], (List.append_nil _).symm, isName,
      by rwa [String.ofList_toList], nofun⟩, nofun⟩
  rw [front?, noValue, noCall, view_paramPath?_of_path path nofun]
  rfl

theorem parseTest_param (isName : IsName name.toList) (free : isReserved name = false)
    (clear : ∀ word ∈ literalWords, ∀ t, ¬Keyword word name.toList t) :
    parseTest name = .ok (.param name) := by
  have opens : Starts (opensWord ·) name.toList := isName.whole.starts.imp opensWord_of_startsName
  have operand : read .operand name.toList = some (.param name, []) :=
    read_operand_of_front opens (front?_name isName free clear)
  have signed : read .signed name.toList = some (.param name, []) := by
    rw [read_signed]
    cases sign : leadingSign? name.toList with
    | none => exact operand
    | some x =>
      obtain ⟨op, t⟩ := x
      have sign := prefix_of_leadingSign? sign
      rw [isName.skipGap_eq_self] at sign
      dsimp only
      rw [read_behind_sign isName free sign]
      exact operand
  refine parseTest_eq_ok_iff.2 ⟨[], ?_, rfl⟩
  rw [isName.skipGap_eq_self]
  exact read_of_signed signed rfl nofun

theorem parseTest_literalWord (isName : IsName name.toList) (free : isReserved name = false)
    (listed : word ∈ literalWords) (h : Keyword word name.toList t) :
    parseTest name = .error (.testSyntax name .leftover t) := by
  have starts := h.foreign (mem_keywords word listed) isName free
  obtain ⟨v, read⟩ := read_of_literalWord listed h starts
  obtain ⟨c, head, foreign⟩ := starts
  rw [← isName.skipGap_eq_self] at read
  refine parseTest_eq_leftover read (skipGap_eq_self ⟨c, head, foreign.not_isGap⟩) ?_
  rintro rfl
  cases head

/-- A name that is not reserved is, as a whole test, the parameter of that name, unless one of its
letters beyond ASCII stands right behind a literal word. Then the word is read, and the rest of the
name is left over. -/
theorem parseTest_name (isName : IsName name.toList) (free : isReserved name = false) :
    (∀ word ∈ literalWords, ∀ t, Keyword word name.toList t →
      parseTest name = .error (.testSyntax name .leftover t))
    ∧ ((∀ word ∈ literalWords, ∀ t, ¬Keyword word name.toList t) →
      parseTest name = .ok (.param name))
    ∧ ((∀ c ∈ name.toList, isWordChar c) → parseTest name = .ok (.param name)) := by
  refine ⟨fun word listed t => parseTest_literalWord isName free listed,
    parseTest_param isName free, fun ascii => parseTest_param isName free ?_⟩
  intro word listed t found
  obtain ⟨c, head, foreign⟩ := found.foreign (mem_keywords word listed) isName free
  obtain ⟨w, front, -⟩ := found
  have inside : c ∈ name.toList := by
    rw [front]
    exact List.mem_append_right w (List.mem_of_mem_head? head)
  have word := ascii c inside
  rw [foreign.2] at word
  cases word

theorem parseTest_name_accent :
    IsName "noté".toList ∧ isReserved "noté" = false ∧ parseTest "noté" = .ok (.param "noté")
    ∧ IsName "Nullé".toList ∧ isReserved "Nullé" = false
    ∧ parseTest "Nullé" = .error (.testSyntax "Nullé" .leftover ['é']) := by
  have name : IsName "noté".toList :=
    ⟨'n', ['o', 't', 'é'], rfl, by decide, List.all_eq_true.1 (by decide +kernel)⟩
  have name' : IsName "Nullé".toList :=
    ⟨'N', ['u', 'l', 'l', 'é'], rfl, by decide, List.all_eq_true.1 (by decide +kernel)⟩
  have clear : ∀ word ∈ literalWords, ∀ t, ¬Keyword word "noté".toList t := by
    have differ : ∀ word ∈ literalWords,
        ("noté".toList.takeWhile isWordChar).map Char.toLower ≠ word.toList := by decide
    exact fun word listed t found =>
      differ word listed (found.run_spelled (mem_keywords word listed)).1
  have word : Keyword "null" "Nullé".toList ['é'] :=
    ⟨['N', 'u', 'l', 'l'], rfl, by decide, endsWord_of_head rfl (by decide)⟩
  have free : isReserved "noté" = false := by decide +kernel
  have free' : isReserved "Nullé" = false := by decide +kernel
  exact ⟨name, free, (parseTest_name name free).2.1 clear,
    name', free', (parseTest_name name' free').1 "null" (by decide) _ word⟩

/-- A literal word hides the name that goes on behind it. -/
theorem parseTest_name_rejected :
    IsName "trueé".toList ∧ isReserved "trueé" = false
    ∧ parseTest "trueé" ≠ .ok (.param "trueé") := by
  have name : IsName "trueé".toList :=
    ⟨'t', ['r', 'u', 'e', 'é'], rfl, by decide, List.all_eq_true.1 (by decide +kernel)⟩
  have free : isReserved "trueé" = false := by decide +kernel
  have word : Keyword "true" "trueé".toList ['é'] :=
    ⟨['t', 'r', 'u', 'e'], rfl, by decide, endsWord_of_head rfl (by decide)⟩
  refine ⟨name, free, ?_⟩
  rw [parseTest_literalWord name free (by decide : "true" ∈ literalWords) word]
  exact nofun

end SqlTemplate.Condition
