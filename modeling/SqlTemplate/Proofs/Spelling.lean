import SqlTemplate.Proofs.Follow

namespace SqlTemplate

open Text (view skipGap Starts)
open Condition

def Value.Spelled : Value → Prop
  | .integer n => 0 ≤ n ∧ isInteger64 n
  | .real v => ∃ whole places, IsDigits whole ∧ IsDigits places ∧ v = decimal whole places
  | .text s => '\'' ∉ s.toList ∨ '"' ∉ s.toList
  | .boolean _ | .null => True
  | _ => False

namespace Expr

mutual

/-- Tests with literals that can be written, and with names of ASCII that are not reserved. -/
def Plain : Expr → Prop
  | .literal v => v.Spelled
  | .param path => IsPath path.toList ∧ ∀ c ∈ path.toList, isWordChar c ∨ c = '.'
  | .call name es =>
    IsName name.toList ∧ (∀ c ∈ name.toList, isWordChar c) ∧ isReserved name = false ∧ AllPlain es
  | .unary _ e => e.Plain
  | .binary _ a b => a.Plain ∧ b.Plain
  | .within e es => e.Plain ∧ AllPlain es

def AllPlain : List Expr → Prop
  | [] => True
  | e :: es => e.Plain ∧ AllPlain es

end

end Expr

namespace Condition

variable {l : Level} {e : Expr} {es : List Expr} {op : BinaryOp} {word : String}
  {s t r : List Char} {c : Char}

theorem Ends.stops (h : Ends l c) : c.isDigit = false ∧ c ≠ '.' ∧ c ≠ '(' ∧ c.toNat < 128 := by
  rcases h with rfl | rfl | ⟨k, sign, -⟩
  · decide
  · decide
  · have all : k.signs.all fun c => !c.isDigit && c != '.' && c != '(' && c.toNat < 128 := by
      cases k <;> decide
    simpa [and_assoc] using List.all_eq_true.1 all c sign

theorem isGap_or_skipGap_eq (found : c ∈ t.head?) : Text.isGap c ∨ skipGap t = t := by
  cases gap : Text.isGap c with
  | true => exact .inl rfl
  | false => exact .inr (skipGap_eq_self ⟨c, found, gap⟩)

theorem EndsAt.stops (h : EndsAt l (skipGap t)) :
    ∀ c ∈ t.head?, c.isDigit = false ∧ c ≠ '.' ∧ c ≠ '(' ∧ c.toNat < 128 := by
  intro c found
  rcases isGap_or_skipGap_eq found with gap | same
  · rcases eq_of_isGap gap with rfl | rfl | rfl | rfl <;> decide
  · rw [same] at h
    exact (h c found).stops

theorem Arguments.stops (h : Arguments (skipGap t) es r) :
    ∀ c ∈ t.head?, continuesName c = false := by
  intro c found
  have opening := h.head?_eq
  rcases isGap_or_skipGap_eq found with gap | same
  · rcases eq_of_isGap gap with rfl | rfl | rfl | rfl <;> exact continuesName_of_lt (by decide)
  · rw [same] at opening
    obtain rfl : c = '(' := Option.some.inj (found.symm.trans opening)
    exact continuesName_of_lt (by decide)

theorem read_operand_of_front (starts : Starts (opensWord ·) s)
    (front : front? s = some (e, t)) : read .operand s = some (e, skipGap t) := by
  have gap : skipGap s = s := skipGap_eq_self (starts.imp fun opens =>
    isGap_of_opensPhrase (opensPhrase_of_opensOperand (opensOperand_of_opensWord opens)))
  have none : view (mark? "(" s) = none := by
    refine view_mark?_eq_none (c := '(') rfl ?_
    rw [gap]
    rintro d found rfl
    have opens := starts.forall '(' found
    revert opens
    decide
  rw [read_operand, view_parenthesized?, none, gap, front]
  rfl

theorem leadingSign?_eq_none_of_word (starts : Starts (opensWord ·) s)
    (h : view (keyword? "not" s) = none) : leadingSign? s = none :=
  leadingSign?_eq_none (starts.imp opensOperand_of_opensWord) h

theorem view_keyword?_eq_none (known : word ∈ keywords)
    (h : ∀ c ∈ s.head?, startsName c = false) : view (keyword? word s) = none := by
  refine Option.eq_none_iff_forall_ne_some.2 fun (⟨⟩, t) found => ?_
  have spelled := (view_keyword?_eq_some_iff (toList_ne_nil_of_mem_keywords word known)).1 found
  obtain ⟨c, head, starts, -⟩ := spelled.starts known
  simp [h c head] at starts

theorem Literal.view_not {v : Value} (h : Literal s v t) : view (keyword? "not" s) = none := by
  cases h with
  | integer digits | real digits =>
    refine view_keyword?_eq_none (by decide) fun c found => Bool.eq_false_iff.2 fun starts => ?_
    have digit := (digits.starts _).forall c found
    simp [isDigit_of_startsName starts] at digit
  | text isQuote =>
    refine view_keyword?_eq_none (by decide) fun d found => ?_
    obtain rfl := Option.some.inj found
    rcases isQuote with rfl | rfl <;> decide
  | true word | false word | nil word | null word =>
    rw [word.view_keyword? (by decide) (by decide)]
    rfl

theorem read_literal {v : Value} (h : Literal s v t) (ends : EndsAt l (skipGap t)) :
    read .operand s = some (.literal v, skipGap t) ∧ leadingSign? s = none := by
  have read := view_literal?_of_literal h fun c found =>
    ⟨(ends.stops c found).1, (ends.stops c found).2.1⟩
  refine ⟨read_operand_of_front h.starts ?_, leadingSign?_eq_none_of_word h.starts h.view_not⟩
  rw [front?, read]
  rfl

theorem free_run {name : List Char} (ascii : ∀ c ∈ name, isWordChar c)
    (free : isReserved (String.ofList name) = false) (ends : EndsWord t) :
    isReserved (String.ofList ((name ++ t).takeWhile isWordChar)) = false := by
  rwa [(Text.takeWhile_append_of_stop ascii ends).1]

theorem read_call {name : String} (named : Name name s t)
    (ascii : ∀ c ∈ name.toList, isWordChar c) (free : isReserved name = false)
    (list : Arguments (skipGap t) es r) (listed : view (arguments? t) = some (es, r)) :
    read .operand s = some (.call name es, r) ∧ leadingSign? s = none := by
  have starts := named.starts
  have opens : Starts (opensWord ·) s := starts.imp opensWord_of_startsName
  obtain ⟨rfl, isName, ends⟩ := named
  have free := free_run ascii (by simpa using free) ends
  have called : view (call? (name.toList ++ t)) = some (.call name es, r) := by
    rw [view_call?, view_identifier?_eq_some_iff.2 ⟨rfl, isName, list.stops⟩, Option.bind_some]
    dsimp only
    rw [listed]
    rfl
  refine ⟨?_, leadingSign?_eq_none_of_word opens (view_keyword?_of_free free (by decide))⟩
  rw [← list.skipGap_rest]
  refine read_operand_of_front opens ?_
  rw [front?, view_literal?_of_free starts.forall free, called]
  rfl

theorem IsName.ne_dot {name : List Char} (h : IsName name) : ∀ c ∈ name, c ≠ '.' := by
  obtain ⟨d, ds, rfl, starts, continues⟩ := h
  have stops : continuesName '.' = false := continuesName_of_lt (by decide)
  rintro c found rfl
  rcases List.mem_cons.1 found with rfl | found
  · revert starts
    decide
  · simp [continues '.' found] at stops

theorem read_param {path : String} (h : Path path s t)
    (ascii : ∀ c ∈ path.toList, isWordChar c ∨ c = '.') (ends : EndsAt l (skipGap t)) :
    read .operand s = some (.param path, skipGap t) ∧ leadingSign? s = none := by
  have starts := h.starts
  have opens : Starts (opensWord ·) s := starts.imp opensWord_of_startsName
  have stop : ∀ c ∈ t.head?, continuesName c = false ∧ c ≠ '.' := fun c found =>
    have stops := ends.stops c found
    ⟨(continuesName_of_lt stops.2.2.2).trans (h.2.2 c found), stops.2.1⟩
  have read := view_paramPath?_of_path h stop
  obtain ⟨rfl, ⟨name, ws, whole, isName, free, words⟩, endsWord⟩ := h
  have split : path.toList ++ t = name ++ (ws.flatMap ('.' :: ·) ++ t) := by simp [whole]
  have ascii : ∀ c ∈ name, isWordChar c := fun c found =>
    (ascii c (by simp [whole, found])).resolve_right (isName.ne_dot c found)
  have behind : (∀ c ∈ (ws.flatMap ('.' :: ·) ++ t).head?, continuesName c = false)
      ∧ view (mark? "(" (ws.flatMap ('.' :: ·) ++ t)) = none := by
    cases ws with
    | nil =>
      refine ⟨fun c found => (stop c found).1, ?_⟩
      exact view_mark?_eq_none (c := '(') rfl fun c found => (ends c found).stops.2.2.1
    | cons w ws =>
      refine ⟨?_, rfl⟩
      rintro - ⟨⟩
      exact continuesName_of_lt (by decide)
  have notCalled : view (call? (path.toList ++ t)) = none := by
    have named : view (identifier? (path.toList ++ t))
        = some (String.ofList name, ws.flatMap ('.' :: ·) ++ t) :=
      view_identifier?_eq_some_iff.2 ⟨by simp [whole], by simpa using isName, behind.1⟩
    rw [view_call?, named, Option.bind_some]
    dsimp only
    rw [view_arguments?, behind.2]
    rfl
  have free := free_run ascii free (endsWord_of_stop behind.1)
  rw [← split] at free
  refine ⟨read_operand_of_front opens ?_,
    leadingSign?_eq_none_of_word opens (view_keyword?_of_free free (by decide))⟩
  rw [front?, view_literal?_of_free starts.forall free, notCalled, read]
  rfl

def Closed (s : List Char) : Prop := ∀ c ∈ s.head?, c = ')' ∨ c = ','

theorem Closed.endsAt (h : Closed s) : EndsAt l s := fun c found =>
  (h c found).imp_right .inl

theorem Closed.goOn_eq (h : Closed s) (gap : skipGap s = s) (l : Level) (e : Expr) :
    goOn l e s = (e, s) := by
  refine goOn_eq_self gap (fun c found => ?_) e
  rcases h c found with rfl | rfl <;> cases l <;> decide

theorem closed_of_head (head : s.head? = some c) (h : c = ')' ∨ c = ',') : Closed s :=
  Starts.forall ⟨c, head, h⟩

theorem Mark.closed (h : Mark ")" s r) : Closed s :=
  closed_of_head (h.head?_eq rfl) (.inl rfl)

theorem MoreArguments.closed (h : MoreArguments s es r) {v : List Char} (closing : Mark ")" r v) :
    Closed s := by
  cases h with
  | none => exact closing.closed
  | some comma => exact closed_of_head (comma.head?_eq rfl) (.inr rfl)

theorem read_eq_none_of_closing (closing : Mark ")" s r) : read l s = none := by
  refine Option.eq_none_iff_forall_ne_some.2 fun (e, t) found => ?_
  obtain ⟨u, rfl, -⟩ := closing
  exact (derives _ _ _ _ found).head_ne (c := ')') (by decide) ')' rfl rfl

theorem read_tighter (h : read l.next s = some (goOn l.next e r)) (phrase : Phrase l.next s e r)
    (sign : l = .signed → leadingSign? s = none) (ends : EndsAt l r) :
    read l s = some (goOn l e r) := by
  cases l with
  | operand => exact h
  | signed =>
    rw [read_signed, sign rfl]
    exact h
  | _ =>
    rw [read_loose (by simp [Loose, Chains]), h,
      goOn_eq_self phrase.skipGap_rest (ends.notMem_signs_next (by decide))]
    rfl

theorem read_binary {a b : Expr} {u : List Char}
    (left : read op.leftLevel s = some (goOn op.leftLevel a t)) (gap : skipGap t = t)
    (sign : Infix op t u) (phrase : Phrase op.level.next u b r)
    (right : read op.level.next u = some (goOn op.level.next b r)) (ends : EndsAt op.level r) :
    read op.level s = some (goOn op.level (.binary op a b) r) := by
  have signed := sign.sign?_eq (phrase.head_ne (by decide))
  rw [goOn_eq_self phrase.skipGap_rest (ends.notMem_signs_next (by cases op <;> decide))] at right
  by_cases single : op.level = .comparison
  · rw [BinaryOp.leftLevel, if_pos single,
      goOn_eq_self gap (sign.notMem_signs (by rw [single]; decide))] at left
    rw [single] at signed right ends ⊢
    rw [goOn_eq_self phrase.skipGap_rest ends.notMem_comparison_signs,
      read_loose (.inr rfl), show read Level.comparison.next s = _ from left, Option.map_some]
    dsimp only
    rw [goOn, sign.view_candidates?_eq_none gap, signed]
    dsimp only
    rw [show read .sum u = _ from right]
  · have chains : Chains op.level := by cases op <;> simp_all [Chains, BinaryOp.level]
    rw [leftLevel_of_chains chains, goOn_chain chains, signed] at left
    dsimp only at left
    rw [right] at left
    exact left

theorem WordMark.endsAt (h : WordMark "in" s r) : EndsAt .sum s := fun c found =>
  .inr (.inr ⟨.comparison, (starts_of_in h).forall c found, by decide, by decide⟩)

theorem WordMark.notMem_signs (h : WordMark "in" s r) (different : .comparison ≠ l) :
    ∀ c ∈ s.head?, c ∉ l.signs := fun c found sign =>
  different (Level.eq_of_mem_signs ((starts_of_in h).forall c found) sign)

theorem read_within {a : Expr} {u : List Char} (left : read .sum s = some (goOn .sum a t))
    (gap : skipGap t = t) (word : WordMark "in" t u) (list : view (arguments? u) = some (es, r))
    (gap' : skipGap r = r) (ends : EndsAt .comparison r) :
    read .comparison s = some (goOn .comparison (.within a es) r) := by
  have candidates : view (candidates? t) = some (es, r) := by
    rw [view_candidates?, (view_wordMark?_eq_some_iff (by decide)).2 (gap.symm ▸ word)]
    exact list
  rw [goOn_eq_self gap (word.notMem_signs (by decide))] at left
  rw [goOn_eq_self gap' ends.notMem_comparison_signs, read_loose (.inr rfl),
    show read Level.comparison.next s = _ from left, Option.map_some]
  dsimp only
  rw [goOn, candidates]

theorem read_parenthesized {u : List Char} (opening : Mark "(" s t)
    (inner : read .disjunction t = some (e, u)) (gap : skipGap u = u) (closing : Mark ")" u r) :
    read .operand s = some (e, r) ∧ leadingSign? s = none := by
  have head : s.head? = some '(' := opening.head?_eq rfl
  have gap' : skipGap s = s := skipGap_eq_self ⟨_, head, by decide⟩
  constructor
  · rw [read_operand, view_parenthesized?,
      (view_mark?_eq_some_iff (by decide)).2 (gap'.symm ▸ opening), Option.bind_some]
    dsimp only
    rw [inner, Option.bind_some]
    dsimp only
    rw [(view_mark?_eq_some_iff (by decide)).2 (gap.symm ▸ closing)]
    rfl
  · exact leadingSign?_eq_none ⟨_, head, by decide⟩
      (view_keyword?_eq_none (by decide) (Starts.forall ⟨_, head, by decide⟩))

mutual

theorem Phrase.read_eq : ∀ {l s e r}, Phrase l s e r → e.Plain → EndsAt l r →
    read l s = some (goOn l e r) ∧ (l = .operand → leadingSign? s = none)
  | _, _, _, _, .tighter h, plain, ends => by
    obtain ⟨read, sign⟩ := h.read_eq plain ends.next
    exact ⟨read_tighter read h (fun same => sign (by rw [same]; rfl)) ends,
      fun same => sign (by rw [same]; rfl)⟩
  | _, _, _, _, .binary left sign right, plain, ends => by
    have leftRead := (left.read_eq plain.1 sign.endsAt).1
    have rightRead := (right.read_eq plain.2 ends.next).1
    exact ⟨read_binary leftRead left.skipGap_rest sign right rightRead ends,
      fun same => absurd same (by cases ‹BinaryOp› <;> decide)⟩
  | _, _, _, _, .within left word list, plain, ends => by
    have leftRead := (left.read_eq plain.1 word.endsAt).1
    exact ⟨read_within leftRead left.skipGap_rest word (list.view_eq plain.2 word.skipGap_rest)
      list.skipGap_rest ends, nofun⟩
  | _, _, _, _, .unary sign h, plain, ends => by
    refine ⟨?_, nofun⟩
    rw [read_signed, sign.leadingSign?_eq]
    dsimp only
    rw [(h.read_eq plain ends).1]
    rfl
  | _, _, _, _, .literal h, plain, ends => by
    obtain ⟨read, sign⟩ := read_literal h ends
    exact ⟨read, fun _ => sign⟩
  | _, _, _, _, .call named list, plain, ends => by
    obtain ⟨isName, ascii, free, plain⟩ := plain
    obtain ⟨read, sign⟩ := read_call named ascii free list (list.view_eq plain rfl)
    exact ⟨read, fun _ => sign⟩
  | _, _, _, _, .param h, plain, ends => by
    obtain ⟨read, sign⟩ := read_param h plain.2 ends
    exact ⟨read, fun _ => sign⟩
  | _, _, _, _, .parenthesized opening h closing, plain, ends => by
    have inner := (h.read_eq plain closing.closed.endsAt).1
    rw [closing.closed.goOn_eq h.skipGap_rest] at inner
    obtain ⟨read, sign⟩ := read_parenthesized opening inner h.skipGap_rest closing
    exact ⟨read, fun _ => sign⟩

theorem Arguments.view_eq : ∀ {s es r}, Arguments s es r → Expr.AllPlain es →
    ∀ {t}, skipGap t = s → view (arguments? t) = some (es, r)
  | _, _, _, .none opening closing, plain, t, gap => by
    have closed := (view_mark?_eq_some_iff (by decide)).2 (opening.skipGap_rest.symm ▸ closing)
    rw [view_arguments?, (view_mark?_eq_some_iff (by decide)).2 (gap ▸ opening), Option.bind_some]
    dsimp only
    rw [read_eq_none_of_closing closing]
    dsimp only
    rw [closed]
    rfl
  | _, _, _, .some opening first more closing, plain, t, gap => by
    have firstRead := (first.read_eq plain.1 (more.closed closing).endsAt).1
    have moreRead := more.view_eq plain.2 closing
    have gap' := more.skipGap_rest first.skipGap_rest
    rw [(more.closed closing).goOn_eq first.skipGap_rest] at firstRead
    rw [view_arguments?, (view_mark?_eq_some_iff (by decide)).2 (gap ▸ opening), Option.bind_some]
    dsimp only
    rw [firstRead]
    dsimp only
    rw [moreRead, (view_mark?_eq_some_iff (by decide)).2 (gap'.symm ▸ closing)]
    rfl

theorem MoreArguments.view_eq : ∀ {s es r}, MoreArguments s es r → Expr.AllPlain es →
    ∀ {v}, Mark ")" r v → (moreArguments s).view = (es, r)
  | _, _, _, .none, plain, v, closing => by
    obtain ⟨t, rfl, -⟩ := closing
    rw [view_moreArguments, show view (mark? "," (")".toList ++ t)) = none from rfl]
  | _, _, _, .some comma first more, plain, v, closing => by
    have firstRead := (first.read_eq plain.1 (more.closed closing).endsAt).1
    have moreRead := more.view_eq plain.2 closing
    rw [(more.closed closing).goOn_eq first.skipGap_rest] at firstRead
    obtain ⟨t, rfl, rfl⟩ := comma
    rw [view_moreArguments, show view (mark? "," (",".toList ++ t)) = some ((), skipGap t) from rfl]
    dsimp only
    rw [firstRead]
    dsimp only
    rw [moreRead]

end

theorem Phrase.loosen {k l : Level} {s r : List Char} {e : Expr} (h : Phrase k s e r)
    (looser : l.rank ≤ k.rank) : Phrase l s e r := by
  by_cases same : l = k
  · exact same ▸ h
  · have tighter : l.rank < l.next.rank ∧ l.next.rank ≤ k.rank := by
      cases l <;> cases k <;> simp_all [Level.rank, Level.next]
    exact .tighter (h.loosen tighter.2)
termination_by k.rank - l.rank

theorem mark_append (word : String) (gap : skipGap s = s) : Mark word (word.toList ++ s) s :=
  ⟨s, rfl, gap.symm⟩

theorem keyword_append (word : String) (lower : word.toList.map Char.toLower = word.toList)
    (ends : EndsWord t) : Keyword word (word.toList ++ t) t :=
  ⟨word.toList, rfl, lower, ends⟩

theorem exists_literal {v : Value} (h : v.Spelled) (ends : EndsWord t) : ∃ s, Literal s v t := by
  cases v with
  | integer n =>
    obtain ⟨nonneg, fits⟩ := h
    have same : (Nat.ofDigitChars 10 (Nat.toDigits 10 n.toNat) 0 : Int) = n := by
      rw [Nat.ofDigitChars_ten_toDigits, Int.toNat_of_nonneg nonneg]
    have digits : IsDigits (Nat.toDigits 10 n.toNat) :=
      ⟨Nat.toDigits_ne_nil, fun _ => Nat.isDigit_of_mem_toDigits (by decide) (by decide)⟩
    have literal := Literal.integer (t := t) digits (by rwa [same])
    rw [same] at literal
    exact ⟨_, literal⟩
  | real v =>
    obtain ⟨whole, places, isWhole, isPlaces, same⟩ := h
    rw [same]
    exact ⟨_, .real isWhole isPlaces⟩
  | text content =>
    rcases h with absent | absent
    · have literal := Literal.text (t := t) (.inl rfl) absent
      rw [String.ofList_toList] at literal
      exact ⟨_, literal⟩
    · have literal := Literal.text (t := t) (.inr rfl) absent
      rw [String.ofList_toList] at literal
      exact ⟨_, literal⟩
  | boolean b =>
    cases b with
    | false => exact ⟨_, .false (keyword_append "false" (by decide) ends)⟩
    | true => exact ⟨_, .true (keyword_append "true" (by decide) ends)⟩
  | null => exact ⟨_, .null (keyword_append "null" (by decide) ends)⟩
  | _ => cases h

theorem endsWord_of_head (head : s.head? = some c) (h : isWordChar c = false) : EndsWord s :=
  Starts.forall ⟨c, head, h⟩

theorem exists_parenthesized (h : Phrase .disjunction s e (")".toList ++ r))
    (gap : skipGap r = r) : ∃ s, Phrase .operand s e r :=
  ⟨_, .parenthesized (mark_append "(" h.skipGap_eq_self) h (mark_append ")" gap)⟩

mutual

theorem exists_phrase : ∀ {e : Expr}, e.Plain → ∀ {r}, skipGap r = r →
    ∃ s, Phrase .operand s e r
  | .literal v, plain, r, gap => by
    have ends : EndsWord (' ' :: r) := endsWord_of_head rfl (by decide)
    obtain ⟨s, literal⟩ := exists_literal plain ends
    have phrase := Phrase.literal literal
    rw [show skipGap (' ' :: r) = skipGap r from rfl, gap] at phrase
    exact ⟨s, phrase⟩
  | .param path, plain, r, gap => by
    have ends : EndsWord (' ' :: r) := endsWord_of_head rfl (by decide)
    have phrase := Phrase.param ⟨rfl, plain.1, ends⟩
    rw [show skipGap (' ' :: r) = skipGap r from rfl, gap] at phrase
    exact ⟨_, phrase⟩
  | .call name es, plain, r, gap => by
    obtain ⟨s, list⟩ := exists_arguments plain.2.2.2 gap
    have ends : EndsWord s := endsWord_of_head list.head?_eq (by decide)
    have gap' : skipGap s = s := skipGap_eq_self ⟨_, list.head?_eq, by decide⟩
    exact ⟨_, .call ⟨rfl, plain.1, ends⟩ (gap'.symm ▸ list)⟩
  | .unary op e, plain, r, gap => by
    obtain ⟨s, inner⟩ := exists_phrase (e := e) plain (r := ")".toList ++ r) rfl
    have signed : ∃ t, Prefix op t s := by
      cases op with
      | not => exact ⟨_, .bang (mark_append "!" inner.skipGap_eq_self)⟩
      | neg => exact ⟨_, .minus (mark_append "-" inner.skipGap_eq_self)⟩
    obtain ⟨t, sign⟩ := signed
    have phrase := Phrase.unary sign (inner.loosen (by decide))
    exact exists_parenthesized (phrase.loosen (by decide)) gap
  | .binary op a b, plain, r, gap => by
    obtain ⟨s, right⟩ := exists_phrase plain.2 (r := ")".toList ++ r) rfl
    have sign := Infix.mark (mark_append op.mark right.skipGap_eq_self)
    obtain ⟨t, left⟩ := exists_phrase plain.1 (r := op.mark.toList ++ s) (by cases op <;> rfl)
    have phrase := Phrase.binary (left.loosen (by cases op <;> decide)) sign
      (right.loosen (by cases op <;> decide))
    exact exists_parenthesized (phrase.loosen (by cases op <;> decide)) gap
  | .within e es, plain, r, gap => by
    obtain ⟨s, list⟩ := exists_arguments plain.2 (r := ")".toList ++ r) rfl
    have ends : EndsWord s := endsWord_of_head list.head?_eq (by decide)
    have gap' : skipGap s = s := skipGap_eq_self ⟨_, list.head?_eq, by decide⟩
    have word : WordMark "in" ("in".toList ++ s) s :=
      ⟨s, keyword_append "in" (by decide) ends, gap'.symm⟩
    obtain ⟨t, left⟩ := exists_phrase plain.1 (r := "in".toList ++ s) rfl
    have phrase := Phrase.within (left.loosen (by decide)) word list
    exact exists_parenthesized (phrase.loosen (by decide)) gap

theorem exists_arguments : ∀ {es : List Expr}, Expr.AllPlain es → ∀ {r}, skipGap r = r →
    ∃ s, Arguments s es r
  | [], _, r, gap => ⟨_, .none (mark_append "(" rfl) (mark_append ")" gap)⟩
  | e :: es, plain, r, gap => by
    obtain ⟨s, gap', more⟩ := exists_moreArguments plain.2 (r := ")".toList ++ r) rfl
    obtain ⟨t, first⟩ := exists_phrase plain.1 gap'
    exact ⟨_, .some (mark_append "(" first.skipGap_eq_self) (first.loosen (by decide)) more
      (mark_append ")" gap)⟩

theorem exists_moreArguments : ∀ {es : List Expr}, Expr.AllPlain es → ∀ {r}, skipGap r = r →
    ∃ s, skipGap s = s ∧ MoreArguments s es r
  | [], _, r, gap => ⟨r, gap, .none⟩
  | e :: es, plain, r, gap => by
    obtain ⟨s, gap', more⟩ := exists_moreArguments plain.2 gap
    obtain ⟨t, first⟩ := exists_phrase plain.1 gap'
    exact ⟨_, rfl, .some (mark_append "," first.skipGap_eq_self) (first.loosen (by decide)) more⟩

end

end Condition
end SqlTemplate
