import SqlTemplate.Proofs.Spelling
import SqlTemplate.Proofs.Tokens

namespace SqlTemplate.Condition

open Text (view skipGap)

variable {e : Expr} {test : String}

theorem parseTest_eq_ok_iff : parseTest test = .ok e ↔
    ∃ r, read .disjunction (skipGap test.toList) = some (e, r) ∧ skipGap r = [] := by
  rw [parseTest, parse, read]
  cases expression? (skipGap test.toList) with
  | none => simp [view]
  | some x =>
    simp only [view, Option.map_some, List.isEmpty_iff]
    split
    · next same =>
      split at same <;> simp_all
    · next same =>
      split at same <;> simp_all

theorem Written.parseTest_eq (h : Written test e) (plain : e.Plain) : parseTest test = .ok e := by
  have closed : Closed [] := by rintro - ⟨⟩
  have read := (Phrase.read_eq h plain closed.endsAt).1
  rw [closed.goOn_eq rfl] at read
  exact parseTest_eq_ok_iff.2 ⟨[], read, rfl⟩

/-- A test that is read is derived by the grammar as a whole, from gap to gap, and its tree is the
tree of the derivation. The text is a row of tokens with gaps between them, and its literals,
names and paths are those of the tree, in their order. -/
theorem written_of_parseTest (h : parseTest test = .ok e) :
    Written test e ∧ Tokens (skipGap test.toList) e.atoms [] := by
  obtain ⟨r, read, rest⟩ := parseTest_eq_ok_iff.1 h
  have derived := derives _ _ _ _ read
  obtain rfl : r = [] := derived.skipGap_rest.symm.trans rest
  rw [skipGap_skipGap] at derived
  exact ⟨derived, derived.tokens⟩

theorem written_of_parseTest_negated :
    let test := " - ('x')"
    let e : Expr := .unary .neg (.literal (.text "x"))
    parseTest test = .ok e ∧ Written test e ∧ Tokens (skipGap test.toList) e.atoms [] := by
  intro test e
  have absent : '\'' ∉ ['x'] := by decide
  have content : Phrase .operand ['\'', 'x', '\'', ')'] (.literal (.text "x")) [')'] :=
    .literal (.text (.inl rfl) absent)
  have operand : Phrase .operand ['(', '\'', 'x', '\'', ')'] (.literal (.text "x")) [] :=
    .parenthesized ⟨_, rfl, rfl⟩ (content.loosen (by decide)) ⟨_, rfl, rfl⟩
  have sign : Prefix .neg (skipGap test.toList) ['(', '\'', 'x', '\'', ')'] :=
    .minus ⟨[' ', '(', '\'', 'x', '\'', ')'], by decide, rfl⟩
  have phrase : Phrase .disjunction (skipGap test.toList) e [] :=
    (Phrase.unary sign (operand.loosen (by decide))).loosen (by decide)
  have plain : e.Plain := .inr (by decide)
  have read := Written.parseTest_eq phrase plain
  exact ⟨read, written_of_parseTest read⟩

/-- A test of plain parts has a written form, and whatever written form it is given, that form is
read back as the test. -/
theorem parseTest_of_written (plain : e.Plain) :
    (∃ test, Written test e) ∧ ∀ test, Written test e → parseTest test = .ok e := by
  obtain ⟨s, phrase⟩ := exists_phrase plain (r := []) rfl
  refine ⟨⟨String.ofList s, ?_⟩, fun test written => written.parseTest_eq plain⟩
  rw [Written, String.toList_ofList, phrase.skipGap_eq_self]
  exact phrase.loosen (by decide)

theorem parseTest_of_written_not :
    let e : Expr := .unary .not (.param "a")
    e.Plain ∧ Written "NOT\ta " e ∧ parseTest "NOT\ta " = .ok e := by
  intro e
  have path : IsPath ['a'] :=
    ⟨['a'], [], rfl, ⟨'a', [], rfl, by decide, nofun⟩, by decide, nofun⟩
  have plain : e.Plain := ⟨path, List.forall_mem_singleton.2 (by decide)⟩
  have word : Prefix .not "NOT\ta ".toList ['a', ' '] :=
    .not ⟨['\t', 'a', ' '], ⟨['N', 'O', 'T'], rfl, rfl, endsWord_of_head rfl (by decide)⟩, rfl⟩
  have front : Path "a" ['a', ' '] [' '] := ⟨rfl, path, endsWord_of_head rfl (by decide)⟩
  have operand : Phrase .operand ['a', ' '] (.param "a") [] := .param front
  have written : Written "NOT\ta " e :=
    (Phrase.unary word (operand.loosen (by decide))).loosen (by decide)
  exact ⟨plain, written, (parseTest_of_written plain).2 _ written⟩

end SqlTemplate.Condition
