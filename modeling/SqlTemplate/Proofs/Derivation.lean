import SqlTemplate.Proofs.Levels

namespace SqlTemplate

open Text (view skipGap)

namespace Condition

variable {l : Level} {e : Expr} {es : List Expr} {op : BinaryOp} {s r : List Char}

theorem infix_of_sign? (h : sign? l s = some (op, r)) :
    op.level = l ∧ Infix op (skipGap s) r := by
  have marked {marks : List (String × BinaryOp)}
      (known : ∀ m ∈ marks, m.1.toList ≠ [] ∧ m.1 = m.2.mark ∧ m.2.level = l)
      (h : view (firstMark? marks s) = some (op, r)) : op.level = l ∧ Infix op (skipGap s) r := by
    obtain ⟨word, listed, mark⟩ := exists_mark_of_firstMark? (fun m found => (known m found).1) h
    obtain ⟨-, spelled, level⟩ := known _ listed
    exact ⟨level, .mark (spelled ▸ mark)⟩
  cases l with
  | disjunction =>
    obtain ⟨⟨⟨⟩, t⟩, read, ⟨⟩⟩ := Option.map_eq_some_iff.1 h
    rw [disjunctionMark?, Text.view_orElse, Option.or_eq_some_iff] at read
    refine ⟨rfl, ?_⟩
    rcases read with read | ⟨-, read⟩
    · exact .mark ((view_mark?_eq_some_iff (by decide)).1 read)
    · exact .or ((view_wordMark?_eq_some_iff (by decide)).1 read)
  | conjunction =>
    obtain ⟨⟨⟨⟩, t⟩, read, ⟨⟩⟩ := Option.map_eq_some_iff.1 h
    rw [conjunctionMark?, Text.view_orElse, Option.or_eq_some_iff] at read
    refine ⟨rfl, ?_⟩
    rcases read with read | ⟨-, read⟩
    · exact .mark ((view_mark?_eq_some_iff (by decide)).1 read)
    · exact .and ((view_wordMark?_eq_some_iff (by decide)).1 read)
  | comparison | sum | product => exact marked (by decide) h
  | signed | operand => cases h

theorem prefix_of_leadingSign? {op : UnaryOp} (h : leadingSign? s = some (op, r)) :
    Prefix op (skipGap s) r := by
  rw [leadingSign?, Option.or_eq_some_iff] at h
  rcases h with h | ⟨-, h⟩
  · obtain ⟨⟨⟨⟩, t⟩, read, ⟨⟩⟩ := Option.map_eq_some_iff.1 h
    rw [negationMark?, Text.view_orElse, Option.or_eq_some_iff] at read
    rcases read with read | ⟨-, read⟩
    · exact .bang ((view_mark?_eq_some_iff (by decide)).1 read)
    · exact .not ((view_wordMark?_eq_some_iff (by decide)).1 read)
  · obtain ⟨⟨⟨⟩, t⟩, read, ⟨⟩⟩ := Option.map_eq_some_iff.1 h
    exact .minus ((view_mark?_eq_some_iff (by decide)).1 read)

theorem length_lt_of_read (h : read l s = some (e, r)) : r.length < s.length := by
  cases l <;> exact Text.length_lt_of_view h

theorem length_lt_of_sign? (h : sign? l s = some (op, r)) : r.length < s.length := by
  cases l with
  | disjunction | conjunction =>
    obtain ⟨⟨⟨⟩, t⟩, read, ⟨⟩⟩ := Option.map_eq_some_iff.1 h
    exact Text.length_lt_of_view read
  | comparison | sum | product => exact Text.length_lt_of_view h
  | signed | operand => cases h

theorem length_lt_of_leadingSign? {op : UnaryOp} (h : leadingSign? s = some (op, r)) :
    r.length < s.length := by
  rw [leadingSign?, Option.or_eq_some_iff] at h
  rcases h with h | ⟨-, h⟩ <;>
  · obtain ⟨⟨⟨⟩, t⟩, read, ⟨⟩⟩ := Option.map_eq_some_iff.1 h
    exact Text.length_lt_of_view read

theorem leftLevel_of_chains (chains : Chains op.level) : op.leftLevel = op.level := by
  cases op <;> simp_all [BinaryOp.leftLevel, BinaryOp.level, Chains]

def Derives (s : List Char) (l : Level) : Prop :=
  ∀ e r, read l s = some (e, r) → Phrase l (skipGap s) e r

theorem phrase_goOn_chain {l : Level} {a : Expr} {s₀ s : List Char} (chains : Chains l)
    (shorter : ∀ t, t.length < s.length → ∀ l, Derives t l) (left : Phrase l s₀ a s) :
    Phrase l s₀ (goOn l a s).1 (goOn l a s).2 := by
  rw [goOn_chain chains]
  split
  · exact left
  · next op t sign =>
    split
    · exact left
    · next b u read =>
      have lt := length_lt_of_sign? sign
      have lt' := length_lt_of_read read
      have right := shorter t lt _ _ _ read
      obtain ⟨rfl, mark⟩ := infix_of_sign? sign
      rw [left.skipGap_rest] at mark
      rw [mark.skipGap_rest] at right
      refine phrase_goOn_chain chains (fun v shorter' => shorter v (by omega)) ?_
      refine .binary ?_ mark right
      rwa [leftLevel_of_chains chains]
termination_by s.length

theorem moreArguments_of_moreArguments {s : List Char}
    (shorter : ∀ t, t.length < s.length → ∀ l, Derives t l) (gap : skipGap s = s) :
    MoreArguments s (moreArguments s).view.1 (moreArguments s).view.2 := by
  rw [view_moreArguments]
  split
  · exact .none
  · next t comma =>
    have lt := Text.length_lt_of_view comma
    replace comma := (view_mark?_eq_some_iff (by decide)).1 comma
    rw [gap] at comma
    split
    · exact .none
    · next e u read =>
      have lt' := length_lt_of_read read
      have first := shorter t lt _ _ _ read
      rw [comma.skipGap_rest] at first
      exact .some comma first
        (moreArguments_of_moreArguments (fun v shorter' => shorter v (by omega)) first.skipGap_rest)
termination_by s.length

theorem arguments_of_arguments? (shorter : ∀ t, t.length < s.length → ∀ l, Derives t l)
    (h : view (arguments? s) = some (es, r)) : Arguments (skipGap s) es r := by
  rw [view_arguments?, Option.bind_eq_some_iff] at h
  obtain ⟨⟨⟨⟩, t⟩, opening, h⟩ := h
  have lt := Text.length_lt_of_view opening
  replace opening := (view_mark?_eq_some_iff (by decide)).1 opening
  dsimp only at h
  split at h
  · obtain ⟨⟨⟨⟩, r⟩, closing, ⟨⟩⟩ := Option.map_eq_some_iff.1 h
    replace closing := (view_mark?_eq_some_iff (by decide)).1 closing
    rw [opening.skipGap_rest] at closing
    exact .none opening closing
  · next e u read =>
    have lt' := length_lt_of_read read
    have first := shorter t lt _ _ _ read
    rw [opening.skipGap_rest] at first
    obtain ⟨⟨⟨⟩, r⟩, closing, ⟨⟩⟩ := Option.map_eq_some_iff.1 h
    replace closing := (view_mark?_eq_some_iff (by decide)).1 closing
    have more :=
      moreArguments_of_moreArguments (fun v shorter' => shorter v (by omega)) first.skipGap_rest
    rw [more.skipGap_rest first.skipGap_rest] at closing
    exact .some opening first more closing

theorem phrase_goOn_comparison {a : Expr} {s₀ : List Char}
    (shorter : ∀ t, t.length < s.length → ∀ l, Derives t l) (left : Phrase .sum s₀ a s) :
    Phrase .comparison s₀ (goOn .comparison a s).1 (goOn .comparison a s).2 := by
  rw [goOn]
  split
  · next es r found =>
    rw [view_candidates?, Option.bind_eq_some_iff] at found
    obtain ⟨⟨⟨⟩, t⟩, word, list⟩ := found
    have lt := Text.length_lt_of_view word
    replace word := (view_wordMark?_eq_some_iff (by decide)).1 word
    rw [left.skipGap_rest] at word
    have list := arguments_of_arguments? (fun v shorter' => shorter v (by omega)) list
    rw [word.skipGap_rest] at list
    exact .within left word list
  · split
    · exact .tighter left
    · next op t sign =>
      split
      · exact .tighter left
      · next b u read =>
        have right := shorter t (length_lt_of_sign? sign) _ _ _ read
        obtain ⟨level, mark⟩ := infix_of_sign? sign
        rw [left.skipGap_rest] at mark
        rw [mark.skipGap_rest] at right
        rw [← level]
        exact .binary (by rwa [BinaryOp.leftLevel, if_pos level]) mark (by rwa [level])

theorem derives_of_loose (loose : Loose l) (shorter : ∀ t, t.length < s.length → ∀ l, Derives t l)
    (next : Derives s l.next) : Derives s l := by
  intro e r h
  rw [read_loose loose] at h
  obtain ⟨⟨a, t⟩, first, same⟩ := Option.map_eq_some_iff.1 h
  have lt := length_lt_of_read first
  have left := next _ _ first
  have shorter (v : List Char) (_ : v.length < t.length) : ∀ l, Derives v l :=
    shorter v (by omega)
  rw [show e = (goOn l a t).1 from congrArg Prod.fst same.symm,
    show r = (goOn l a t).2 from congrArg Prod.snd same.symm]
  rcases loose with chains | rfl
  · exact phrase_goOn_chain chains shorter (.tighter left)
  · exact phrase_goOn_comparison shorter left

theorem derives_operand (shorter : ∀ t, t.length < s.length → ∀ l, Derives t l) :
    Derives s .operand := by
  intro e r h
  rw [read_operand, Option.or_eq_some_iff] at h
  rcases h with h | ⟨-, h⟩
  · simp only [view_parenthesized?, Option.bind_eq_some_iff, Option.map_eq_some_iff] at h
    obtain ⟨⟨⟨⟩, t⟩, opening, ⟨e, u⟩, inner, ⟨⟨⟩, r⟩, closing, ⟨⟩⟩ := h
    have inner := shorter t (Text.length_lt_of_view opening) _ _ _ inner
    replace opening := (view_mark?_eq_some_iff (by decide)).1 opening
    rw [opening.skipGap_rest] at inner
    replace closing := (view_mark?_eq_some_iff (by decide)).1 closing
    rw [inner.skipGap_rest] at closing
    exact .parenthesized opening inner closing
  · obtain ⟨⟨e, t⟩, front, ⟨⟩⟩ := Option.map_eq_some_iff.1 h
    simp only [front?, view_call?, Option.or_eq_some_iff, Option.map_eq_some_iff,
      Option.bind_eq_some_iff] at front
    rcases front with h | ⟨-, h | ⟨-, h⟩⟩
    · obtain ⟨⟨v, t⟩, literal, ⟨⟩⟩ := h
      exact .literal (literal_of_literal? literal)
    · obtain ⟨⟨name, u⟩, named, ⟨es, t⟩, list, ⟨⟩⟩ := h
      have lt : u.length < s.length :=
        Nat.lt_of_lt_of_le (Text.length_lt_of_view named) (Text.skipGap_suffix s).length_le
      dsimp only at list
      obtain ⟨front, isName, stop⟩ := view_identifier?_eq_some_iff.1 named
      have list := arguments_of_arguments? (fun v shorter' => shorter v (by omega)) list
      rw [list.skipGap_rest]
      exact .call ⟨front, isName, endsWord_of_stop stop⟩ list
    · obtain ⟨⟨path, t⟩, found, ⟨⟩⟩ := h
      exact .param (path_of_paramPath? found)

theorem derives_signed (shorter : ∀ t, t.length < s.length → ∀ l, Derives t l) :
    Derives s .signed := by
  intro e r h
  rw [read_signed] at h
  split at h
  · exact .tighter (derives_operand shorter _ _ h)
  · next op t sign =>
    split at h
    · exact .tighter (derives_operand shorter _ _ h)
    · next read =>
      cases h
      have inner := shorter t (length_lt_of_leadingSign? sign) _ _ _ read
      replace sign := prefix_of_leadingSign? sign
      rw [sign.skipGap_rest] at inner
      exact .unary sign inner

/-- Whatever a level reads is derived. The induction is on the length of the text, and within one
text it goes from tight to loose. -/
theorem derives (s : List Char) : ∀ l, Derives s l := by
  have shorter (t : List Char) (_ : t.length < s.length) : ∀ l, Derives t l := derives t
  exact forall_level (derives_operand shorter) (derives_signed shorter) fun loose next =>
    derives_of_loose loose shorter next
termination_by s.length

end Condition
end SqlTemplate
