import SqlTemplate.Proofs.Derivation

namespace SqlTemplate

open Text (view skipGap Starts)

namespace Level

def rank : Level → Nat
  | .disjunction => 0
  | .conjunction => 1
  | .comparison => 2
  | .sum => 3
  | .product => 4
  | .signed => 5
  | .operand => 6

def signs : Level → List Char
  | .disjunction => ['|', 'o', 'O']
  | .conjunction => ['&', 'a', 'A']
  | .comparison => ['=', '!', '<', '>', 'i', 'I']
  | .sum => ['+', '-']
  | .product => ['*', '/', '%']
  | .signed | .operand => []

theorem eq_of_mem_signs {k l : Level} {c : Char} (h : c ∈ k.signs) (g : c ∈ l.signs) : k = l := by
  by_contra different
  have disjoint : k.signs.all fun c => !l.signs.contains c := by
    cases k <;> cases l <;> first | contradiction | decide
  have := List.all_eq_true.1 disjoint c h
  simp [g] at this

end Level

namespace Condition

variable {l : Level} {e : Expr} {es : List Expr} {op : BinaryOp} {word : String}
  {s t r : List Char} {c : Char}

/-- What may stand behind a phrase: an operator of its own level or a looser one, a comma or a
closing parenthesis. Comparisons do not chain. -/
def Ends (l : Level) (c : Char) : Prop :=
  c = ')' ∨ c = ','
    ∨ ∃ k : Level, c ∈ k.signs ∧ k.rank ≤ l.rank ∧ (k = .comparison → l ≠ .comparison)

def EndsAt (l : Level) (r : List Char) : Prop := ∀ c ∈ r.head?, Ends l c

theorem EndsAt.next (h : EndsAt l r) : EndsAt l.next r := by
  intro c found
  refine (h c found).imp_right (.imp_right ?_)
  rintro ⟨k, sign, rank, single⟩
  refine ⟨k, sign, ?_, ?_⟩
  · cases l <;> simp_all [Level.next, Level.rank] <;> omega
  · cases l <;> cases k <;> simp_all [Level.next, Level.rank]

theorem Mark.head?_eq (first : word.toList.head? = some c) (h : Mark word s r) :
    s.head? = some c := by
  obtain ⟨t, rfl, -⟩ := h
  rw [← first]
  exact List.head?_append_of_ne_nil _ fun empty => by simp [empty] at first

theorem WordMark.starts (h : WordMark word s r) (known : word ∈ keywords)
    (first : word.toList.head? = some c) : Starts (fun d => d = c ∨ d = c.toUpper) s := by
  obtain ⟨t, spelled, -⟩ := h
  refine (spelled.starts known).imp ?_
  rintro d ⟨-, c', first', letter⟩
  obtain rfl : c = c' := Option.some.inj (first.symm.trans first')
  exact letter

theorem Infix.starts (h : Infix op s r) :
    Starts (fun c => c ∈ op.level.signs ∧ ¬(c = 'i' ∨ c = 'i'.toUpper)) s := by
  cases h with
  | mark mark => cases op <;> exact ⟨_, mark.head?_eq rfl, by decide, by decide⟩
  | or word | and word =>
    refine (word.starts (by decide) rfl).imp ?_
    rintro - (rfl | rfl) <;> decide

theorem starts_of_in (h : WordMark "in" s r) : Starts (· ∈ Level.comparison.signs) s := by
  refine (h.starts (by decide) rfl).imp ?_
  rintro - (rfl | rfl) <;> decide

theorem sign?_eq_none (h : ∀ c ∈ (skipGap s).head?, c ∉ l.signs) : sign? l s = none := by
  refine Option.eq_none_iff_forall_ne_some.2 fun (op, r) found => ?_
  obtain ⟨rfl, mark⟩ := infix_of_sign? found
  obtain ⟨c, head, sign, -⟩ := mark.starts
  exact h c head sign

theorem view_candidates?_eq_none (h : ∀ c ∈ (skipGap s).head?, c ∉ Level.comparison.signs) :
    view (candidates? s) = none := by
  have none : view (wordMark? "in" s) = none := by
    refine Option.eq_none_iff_forall_ne_some.2 fun (⟨⟩, r) found => ?_
    obtain ⟨c, head, sign⟩ := starts_of_in ((view_wordMark?_eq_some_iff (by decide)).1 found)
    exact h c head sign
  rw [view_candidates?, none, Option.bind_none]

theorem Infix.view_candidates?_eq_none (h : Infix op s r) (gap : skipGap s = s) :
    view (candidates? s) = none := by
  have none : view (wordMark? "in" s) = none := by
    refine Option.eq_none_iff_forall_ne_some.2 fun (⟨⟩, t) found => ?_
    replace found := (view_wordMark?_eq_some_iff (by decide)).1 found
    rw [gap] at found
    obtain ⟨c, head, letter⟩ := found.starts (by decide) rfl
    exact (h.starts.forall c head).2 letter
  rw [view_candidates?, none, Option.bind_none]

theorem goOn_eq_self (gap : skipGap s = s) (h : ∀ c ∈ s.head?, c ∉ l.signs) (e : Expr) :
    goOn l e s = (e, s) := by
  rw [← gap] at h
  cases l with
  | disjunction | conjunction | sum | product =>
    rw [goOn_chain (by simp [Chains]), sign?_eq_none h]
  | comparison => rw [goOn, view_candidates?_eq_none h, sign?_eq_none h]
  | signed | operand => rfl

theorem EndsAt.notMem_signs_next (h : EndsAt l r) (notLast : l ≠ .operand) :
    ∀ c ∈ r.head?, c ∉ l.next.signs := by
  intro c found sign
  rcases h c found with rfl | rfl | ⟨k, sign', rank, -⟩
  · revert sign
    cases l <;> decide
  · revert sign
    cases l <;> decide
  · obtain rfl := Level.eq_of_mem_signs sign sign'
    revert rank
    cases l <;> first | contradiction | decide

theorem EndsAt.notMem_comparison_signs (h : EndsAt .comparison r) :
    ∀ c ∈ r.head?, c ∉ Level.comparison.signs := by
  intro c found sign
  rcases h c found with rfl | rfl | ⟨k, sign', -, single⟩
  · revert sign
    decide
  · revert sign
    decide
  · exact single (Level.eq_of_mem_signs sign' sign) rfl

theorem Infix.endsAt (h : Infix op s r) : EndsAt op.leftLevel s := fun c found =>
  .inr (.inr ⟨op.level, (h.starts.forall c found).1, by cases op <;> decide⟩)

theorem Infix.notMem_signs (h : Infix op s r) (different : op.level ≠ l) :
    ∀ c ∈ s.head?, c ∉ l.signs := fun c found sign =>
  different (Level.eq_of_mem_signs (h.starts.forall c found).1 sign)

theorem view_mark?_eq_none (first : word.toList.head? = some c)
    (h : ∀ d ∈ (skipGap s).head?, d ≠ c) : view (mark? word s) = none := by
  have ne : word.toList ≠ [] := fun empty => by simp [empty] at first
  refine Option.eq_none_iff_forall_ne_some.2 fun (⟨⟩, r) found => ?_
  exact h c (((view_mark?_eq_some_iff ne).1 found).head?_eq first) rfl

theorem skipGap_eq_self (starts : Starts (Text.isGap · = false) s) : skipGap s = s := by
  cases s with
  | nil => rfl
  | cons c s => exact List.dropWhile_cons_of_neg (by simp [starts.forall c rfl])

theorem view_mark?_orElse_wordMark? (other : String) {d : Char} (h : WordMark word s r)
    (known : word ∈ keywords) (first : word.toList.head? = some c)
    (firstOther : other.toList.head? = some d)
    (different : ∀ e, e = c ∨ e = c.toUpper → e ≠ d ∧ Text.isGap e = false) :
    view (mark? other s <|> wordMark? word s) = some ((), r) := by
  have starts := (h.starts known first).imp (different _)
  have gap : skipGap s = s := skipGap_eq_self (starts.imp And.right)
  have none : view (mark? other s) = none :=
    view_mark?_eq_none firstOther (gap.symm ▸ fun e found => (starts.forall e found).1)
  rw [Text.view_orElse, none, Option.none_or]
  exact (view_wordMark?_eq_some_iff (toList_ne_nil_of_mem_keywords word known)).2 (gap.symm ▸ h)

theorem Infix.sign?_eq (h : Infix op s r) (notEq : ∀ c ∈ r.head?, c ≠ '=') :
    sign? op.level s = some (op, r) := by
  have notLonger (c : Char) (word : String) {t : List Char} (spelled : word.toList = [c, '='])
      (kept : skipGap (c :: t) = c :: t) (notEq : ∀ c ∈ (skipGap t).head?, c ≠ '=') :
      view (mark? word (c :: t)) = none := by
    refine Option.eq_none_iff_forall_ne_some.2 fun (⟨⟩, r) found => ?_
    obtain ⟨u, same, -⟩ := (view_mark?_eq_some_iff (by simp [spelled])).1 found
    rw [kept, spelled] at same
    obtain rfl : t = '=' :: u := (List.cons.inj same).2
    exact notEq '=' rfl rfl
  cases h with
  | mark mark =>
    obtain ⟨t, rfl, rfl⟩ := mark
    cases op with
    | lt =>
      show view (firstMark? _ ('<' :: t)) = _
      rw [view_firstMark?_cons, view_firstMark?_cons, view_firstMark?_cons,
        notLonger '<' "<=" rfl rfl notEq]
      rfl
    | gt =>
      show view (firstMark? _ ('>' :: t)) = _
      rw [view_firstMark?_cons, view_firstMark?_cons, view_firstMark?_cons, view_firstMark?_cons,
        notLonger '>' ">=" rfl rfl notEq]
      rfl
    | _ => rfl
  | or word =>
    have read := view_mark?_orElse_wordMark? "||" word (by decide) rfl rfl
      (by rintro - (rfl | rfl) <;> decide)
    simp only [BinaryOp.level, sign?, disjunctionMark?, read, Option.map_some]
  | and word =>
    have read := view_mark?_orElse_wordMark? "&&" word (by decide) rfl rfl
      (by rintro - (rfl | rfl) <;> decide)
    simp only [BinaryOp.level, sign?, conjunctionMark?, read, Option.map_some]

theorem Prefix.leadingSign?_eq {op : UnaryOp} (h : Prefix op s r) :
    leadingSign? s = some (op, r) := by
  cases h with
  | bang mark =>
    obtain ⟨t, rfl, rfl⟩ := mark
    rfl
  | not word =>
    have read := view_mark?_orElse_wordMark? "!" word (by decide) rfl rfl
      (by rintro - (rfl | rfl) <;> decide)
    simp only [leadingSign?, negationMark?, read, Option.map_some, Option.some_or]
  | minus mark =>
    obtain ⟨t, rfl, rfl⟩ := mark
    rfl

def opensWord (c : Char) : Bool := c.isDigit || c == '\'' || c == '"' || startsName c

def opensOperand (c : Char) : Bool := opensWord c || c == '('

def opensPhrase (c : Char) : Bool := opensOperand c || c == '!' || c == '-'

theorem eq_of_isGap (h : Text.isGap c) : c = ' ' ∨ c = '\t' ∨ c = '\r' ∨ c = '\n' := by
  simpa [Text.isGap, or_assoc] using h

theorem isGap_of_opensPhrase (h : opensPhrase c) : Text.isGap c = false := by
  refine Bool.eq_false_iff.2 fun gap => ?_
  rcases eq_of_isGap gap with rfl | rfl | rfl | rfl <;> revert h <;> decide

theorem opensWord_of_startsName (h : startsName c) : opensWord c := by
  simp [opensWord, h]

theorem opensPhrase_of_startsName (h : startsName c) : opensPhrase c := by
  simp [opensPhrase, opensOperand, opensWord, h]

theorem opensOperand_of_opensWord (h : opensWord c) : opensOperand c := by
  simp [opensOperand, h]

theorem opensPhrase_of_opensOperand (h : opensOperand c) : opensPhrase c := by
  simp [opensPhrase, h]

theorem IsDigits.starts {digits : List Char} (h : IsDigits digits) (t : List Char) :
    Starts (·.isDigit) (digits ++ t) := by
  obtain ⟨ne, all⟩ := h
  cases digits with
  | nil => exact absurd rfl ne
  | cons c digits => exact ⟨c, rfl, all c List.mem_cons_self⟩

theorem Name.starts {name : String} (h : Name name s t) : Starts (startsName ·) s := by
  obtain ⟨rfl, ⟨c, cs, same, starts, -⟩, -⟩ := h
  exact ⟨c, by simp [same], starts⟩

theorem Path.starts {path : String} (h : Path path s t) : Starts (startsName ·) s := by
  obtain ⟨rfl, ⟨name, ws, whole, ⟨c, cs, rfl, starts, -⟩, -⟩, -⟩ := h
  exact ⟨c, by simp [whole], starts⟩

theorem Literal.starts {v : Value} (h : Literal s v t) : Starts (opensWord ·) s := by
  cases h with
  | integer digits | real digits =>
    exact (digits.starts _).imp fun digit => by simp [opensWord, digit]
  | text isQuote =>
    exact ⟨_, rfl, by rcases isQuote with rfl | rfl <;> decide⟩
  | true word | false word | nil word | null word =>
    exact (word.starts (by decide)).imp fun first => opensWord_of_startsName first.1

theorem Prefix.starts {op : UnaryOp} (h : Prefix op s r) : Starts (opensPhrase ·) s := by
  cases h with
  | bang mark | minus mark => exact ⟨_, mark.head?_eq rfl, by decide⟩
  | not word =>
    obtain ⟨t, spelled, -⟩ := word
    exact (spelled.starts (by decide)).imp fun first => opensPhrase_of_startsName first.1

mutual

theorem Phrase.starts : ∀ {l s e r}, Phrase l s e r → Starts (opensPhrase ·) s
  | _, _, _, _, .tighter h => h.starts
  | _, _, _, _, .binary left _ _ => left.starts
  | _, _, _, _, .within left _ _ => left.starts
  | _, _, _, _, .unary sign _ => sign.starts
  | _, _, _, _, .literal h =>
    h.starts.imp fun opens => opensPhrase_of_opensOperand (opensOperand_of_opensWord opens)
  | _, _, _, _, .call h _ => h.starts.imp opensPhrase_of_startsName
  | _, _, _, _, .param h => h.starts.imp opensPhrase_of_startsName
  | _, _, _, _, .parenthesized opening _ _ => ⟨_, opening.head?_eq rfl, by decide⟩

theorem Arguments.head?_eq : ∀ {s es r}, Arguments s es r → s.head? = Option.some '('
  | _, _, _, .none opening _ => opening.head?_eq rfl
  | _, _, _, .some opening _ _ _ => opening.head?_eq rfl

end

theorem Phrase.skipGap_eq_self (h : Phrase l s e r) : skipGap s = s :=
  Condition.skipGap_eq_self (h.starts.imp isGap_of_opensPhrase)

theorem Phrase.head_ne (h : Phrase l s e r) (closed : opensPhrase c = false) :
    ∀ d ∈ s.head?, d ≠ c := by
  rintro d found rfl
  have opens := h.starts.forall d found
  simp [closed] at opens

theorem leadingSign?_eq_none (starts : Starts (opensOperand ·) s)
    (h : view (keyword? "not" s) = none) : leadingSign? s = none := by
  have gap : skipGap s = s := Condition.skipGap_eq_self
    (starts.imp fun opens => isGap_of_opensPhrase (opensPhrase_of_opensOperand opens))
  have unmarked (mark : String) (d : Char) (first : mark.toList.head? = some d)
      (closed : opensOperand d = false) : view (mark? mark s) = none := by
    refine view_mark?_eq_none first ?_
    rw [gap]
    rintro c found rfl
    have opens := starts.forall c found
    simp [closed] at opens
  rw [leadingSign?, negationMark?, Text.view_orElse, unmarked "!" '!' rfl (by decide), wordMark?,
    Text.view_skipAfter, gap, h, unmarked "-" '-' rfl (by decide)]
  rfl

end Condition
end SqlTemplate
