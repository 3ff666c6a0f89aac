import SqlTemplate.Proofs.Descent
import Mathlib

namespace SqlTemplate

open Text (view skipGap Parser Attempt Fault Follows)

namespace Condition

theorem view_mark? (word : String) (s : List Char) : view (mark? word s)
    = (view (Text.readWord? (· == ·) word.toList (skipGap s))).map
      fun (a, r) => (a, skipGap r) := by
  rw [mark?, Text.view_skipAfter]

theorem view_mark?_skipGap (word : String) (s : List Char) :
    view (mark? word (skipGap s)) = view (mark? word s) := by
  rw [view_mark?, view_mark?, skipGap_skipGap]

theorem view_wordMark?_skipGap (word : String) (s : List Char) :
    view (wordMark? word (skipGap s)) = view (wordMark? word s) := by
  rw [wordMark?, wordMark?, Text.view_skipAfter, Text.view_skipAfter, skipGap_skipGap]

theorem read_skipGap (l : Level) (s : List Char) : read l (skipGap s) = read l s := by
  have operand : read .operand (skipGap s) = read .operand s := by
    rw [read_operand, read_operand, view_parenthesized?, view_parenthesized?, view_mark?_skipGap,
      skipGap_skipGap]
  have sign : leadingSign? (skipGap s) = leadingSign? s := by
    simp only [leadingSign?, negationMark?, Text.view_orElse, view_mark?_skipGap,
      view_wordMark?_skipGap]
  have signed : read .signed (skipGap s) = read .signed s := by
    rw [read_signed, read_signed, sign, operand]
  refine forall_level (P := fun l => read l (skipGap s) = read l s) operand signed ?_ l
  intro l loose next
  rw [read_loose loose, read_loose loose, next]

namespace Descent

variable {α : Type} {g : Rules} {l : Level} {s : List Char}

def Rule.read? : Rule α → List Char → Option (α × List Char)
  | .level l, s => read l s
  | .call, s => view (call? s)
  | .arguments, s => view (arguments? s)

def Agrees (g : Rules) (s : List Char) : Prop :=
  ∀ ⦃α : Type⦄ (rule : Rule α), (g rule s).Gives (rule.read? s)

theorem round_gives (shorter : ∀ t, t.length < s.length → Agrees g t) (l : Level) :
    (round g l s).Gives ((sign? l s).bind fun (op, t) =>
      (read l.next t).map fun (b, u) => ((op, b), u)) :=
  (sign_gives l s).bind fun _ t sign =>
    (shorter t (length_lt_of_sign? sign) (.level l.next)).map _

theorem many_round_gives (advances : ∀ ⦃α⦄ (rule : Rule α), (g rule).Advances) (chains : Chains l)
    {s : List Char} (shorter : ∀ t, t.length < s.length → Agrees g t) (e : Expr) :
    ((Parser.many (round g l) s).map fun rest =>
      rest.foldl (fun left (op, right) => .binary op left right) e).Gives (some (goOn l e s)) := by
  have first := round_gives shorter l
  rw [goOn_chain chains]
  cases sign : sign? l s with
  | none =>
    rw [sign] at first
    obtain ⟨fault, t, failed⟩ := first.exists_failed
    rw [Parser.many_of_failed failed]
    exact .read
  | some x =>
    obtain ⟨op, t⟩ := x
    rw [sign, Option.bind_some] at first
    dsimp only at first ⊢
    cases right : read l.next t with
    | none =>
      rw [right] at first
      obtain ⟨fault, u, failed⟩ := first.exists_failed
      rw [Parser.many_of_failed failed]
      exact .read
    | some y =>
      obtain ⟨b, u⟩ := y
      rw [right] at first
      have lt := length_lt_of_sign? sign
      have lt' := length_lt_of_read right
      -- What is left goes on from the operand that the round folds in.
      rw [Parser.many_of_read (round_advances advances l) first.eq_read, Attempt.map_map]
      exact many_round_gives advances chains
        (fun v (_ : v.length < u.length) => shorter v (by omega)) _
termination_by s.length

theorem chain_gives (advances : ∀ ⦃α⦄ (rule : Rule α), (g rule).Advances) (chains : Chains l)
    (shorter : ∀ t, t.length < s.length → Agrees g t)
    (next : (g (.level l.next) s).Gives (read l.next s)) :
    (chain g l s).Gives (read l s) := by
  rw [read_loose (.inl chains), Option.map_eq_bind]
  refine next.bind fun first t found => ?_
  have lt := length_lt_of_read found
  exact many_round_gives advances chains (fun v shorter' => shorter v (by omega)) first

theorem candidates_gives (shorter : ∀ t, t.length < s.length → Agrees g t) :
    (candidates g s).Gives (view (candidates? s)) := by
  rw [view_candidates?]
  exact (gapped_keyword_gives "in" s).bind fun _ t found =>
    shorter t (Text.length_lt_of_view found) .arguments

theorem some_goOn_comparison (left : Expr) (t : List Char) : some (goOn .comparison left t) =
    ((view (candidates? t)).map fun (es, r) => (.within left es, r)).or
      ((some (((sign? .comparison t).bind fun (op, u) =>
        (read .sum u).map fun (b, r) => ((op, b), r)).elim (none, t) fun (x, r) =>
          (some x, r))).map fun (x, r) => (compared left x, r)) := by
  rw [goOn]
  cases view (candidates? t) with
  | some x => rfl
  | none =>
    cases sign? .comparison t with
    | none => rfl
    | some y =>
      dsimp only [Option.map_none, Option.none_or, Option.bind_some]
      cases read .sum y.2 <;> rfl

theorem comparison_gives (shorter : ∀ t, t.length < s.length → Agrees g t)
    (next : (g (.level .sum) s).Gives (read .sum s)) :
    (comparison g s).Gives (read .comparison s) := by
  rw [read_loose (.inr rfl), Option.map_eq_bind]
  refine next.bind fun left t found => ?_
  have lt := length_lt_of_read found
  have shorter (v : List Char) (_ : v.length < t.length) : Agrees g v := shorter v (by omega)
  dsimp only [Function.comp_apply]
  rw [some_goOn_comparison]
  exact ((candidates_gives shorter).map _).recover
    ((Parser.opt_gives (round_gives shorter .comparison)).map _)

theorem view_minus_of_negation {t : List Char} (h : view (negationMark? s) = some ((), t)) :
    view (mark? "-" s) = none := by
  have sign : leadingSign? s = some (.not, t) := by rw [leadingSign?, h]; rfl
  refine Option.eq_none_iff_forall_ne_some.2 ?_
  rintro ⟨⟨⟩, r⟩ found
  -- A text has one leading sign.
  have minus : Prefix .neg (skipGap s) r := .minus ((view_mark?_eq_some_iff (by decide)).1 found)
  have both := minus.leadingSign?_eq.symm.trans (prefix_of_leadingSign? sign).leadingSign?_eq
  cases both

theorem read_signed_eq_or (s : List Char) : read .signed s =
    (((view (negationMark? s)).bind fun (_, t) => read .signed t).map fun (e, r) =>
      (.unary .not e, r)).or
    ((((view (mark? "-" s)).bind fun (_, t) => read .signed t).map fun (e, r) =>
      (.unary .neg e, r)).or (read .operand s)) := by
  rw [read_signed, leadingSign?]
  cases negated : view (negationMark? s) with
  | some x =>
    rw [view_minus_of_negation negated]
    dsimp only [Option.map_some, Option.some_or, Option.bind_some]
    cases read .signed x.2 <;> rfl
  | none =>
    cases view (mark? "-" s) with
    | none => rfl
    | some x =>
      dsimp only [Option.map_some, Option.map_none, Option.none_or, Option.bind_some]
      cases read .signed x.2 <;> rfl

theorem signed_gives (shorter : ∀ t, t.length < s.length → Agrees g t)
    (next : (g (.level .operand) s).Gives (read .operand s)) :
    (signed g s).Gives (read .signed s) := by
  rw [read_signed_eq_or]
  have behind {p : Parser Unit} {found : Option (Unit × List Char)}
      (lt : ∀ a t, found = some (a, t) → t.length < s.length) (h : (p s).Gives found) :
      ((p.bind fun _ => g (.level .signed)) s).Gives (found.bind fun x => read .signed x.2) :=
    h.bind fun a t sign => shorter t (lt a t sign) (.level .signed)
  refine ((behind ?_ (negation_gives s)).map _).recover
    (((behind ?_ (gapped_spelled_gives .character "-" s)).map _).recover next)
  · exact fun _ _ => Text.length_lt_of_view
  · exact fun _ _ => Text.length_lt_of_view

theorem skipGap_of_read {e : Expr} {r : List Char} (h : read l s = some (e, r)) : skipGap r = r :=
  (derives s l e r h).skipGap_rest

theorem parenthesized_gives (shorter : ∀ t, t.length < s.length → Agrees g t) :
    (parenthesized g s).Gives
      ((view (Text.readWord? (· == ·) "(".toList s)).bind fun (_, t) =>
        (read .disjunction t).bind fun (e, u) =>
          (view (Text.readWord? (· == ·) ")".toList u)).map fun (_, r) => (e, r)) :=
  (Parser.ofReader_gives _ _ _).bind fun _ t opening =>
    (shorter t (Text.length_lt_of_view opening) (.level .disjunction)).bind fun _ u _ =>
      (Parser.ofReader_gives _ _ u).map _

theorem gapped_parenthesized_gives (shorter : ∀ t, t.length < s.length → Agrees g t) :
    ((parenthesized g).gapped s).Gives (view (parenthesized? s)) := by
  have le := (Text.skipGap_suffix s).length_le
  have inner := parenthesized_gives fun t (lt : t.length < (skipGap s).length) =>
    shorter t (Nat.lt_of_lt_of_le lt le)
  convert Parser.gapped_gives inner using 1
  rw [view_parenthesized?, view_mark?, Option.bind_map, Option.map_bind]
  refine congrArg _ (funext fun x => ?_)
  dsimp only [Function.comp_apply]
  rw [read_skipGap, Option.map_bind]
  refine Option.bind_congr fun y found => ?_
  dsimp only [Function.comp_apply]
  rw [view_mark?, skipGap_of_read found, Option.map_map, Option.map_map]
  rfl

theorem operand_gives (shorter : ∀ t, t.length < s.length → Agrees g t)
    (called : (g .call (skipGap s)).Gives (view (call? (skipGap s)))) :
    (operand g s).Gives (read .operand s) := by
  rw [read_operand, operand, Parser.gapped_or]
  refine (gapped_parenthesized_gives shorter).recover (Parser.gapped_gives ?_)
  exact ((literal_gives _).map _).recover (called.recover ((path_gives _).map _))

theorem call_gives (shorter : ∀ t, t.length < s.length → Agrees g t) :
    (call g s).Gives (view (call? s)) := by
  rw [view_call?]
  exact (name_gives s).bind fun name t named =>
    (shorter t (Text.length_lt_of_view named) .arguments).map _

theorem behind_gives {s : List Char} (shorter : ∀ t, t.length < s.length → Agrees g t) :
    (Parser.behind comma (g (.level .disjunction)) s).Gives (some (moreArguments s).view) := by
  have separator : (comma s).Gives (view (mark? "," s)) := gapped_spelled_gives .character "," s
  rw [view_moreArguments]
  cases found : view (mark? "," s) with
  | none =>
    rw [found] at separator
    obtain ⟨fault, t, failed⟩ := separator.exists_failed
    rw [Parser.behind, failed]
    exact .read
  | some x =>
    obtain ⟨⟨⟩, t⟩ := x
    rw [found] at separator
    have lt := Text.length_lt_of_view found
    have element := shorter t lt (.level .disjunction)
    rw [Parser.behind, separator.eq_read]
    dsimp only
    rw [if_pos lt]
    cases first : read .disjunction t with
    | none =>
      rw [Rule.read?, first] at element
      obtain ⟨fault, u, failed⟩ := element.exists_failed
      rw [failed]
      exact .read
    | some y =>
      obtain ⟨e, u⟩ := y
      rw [Rule.read?, first] at element
      have lt' := length_lt_of_read first
      rw [element.eq_read]
      dsimp only
      rw [if_pos (Nat.lt_trans lt' lt)]
      exact (behind_gives fun v (_ : v.length < u.length) => shorter v (by omega)).map _
termination_by s.length

theorem separated_gives {s : List Char} (shorter : ∀ t, t.length < s.length → Agrees g t)
    (first : (g (.level .disjunction) s).Gives (read .disjunction s)) :
    (Parser.separated comma (g (.level .disjunction)) s).Gives
      (some ((read .disjunction s).elim ([], s) fun (e, u) =>
        (e :: (moreArguments u).view.1, (moreArguments u).view.2))) := by
  rw [Parser.separated]
  cases found : read .disjunction s with
  | none =>
    rw [found] at first
    obtain ⟨fault, t, failed⟩ := first.exists_failed
    rw [failed]
    exact .read
  | some x =>
    obtain ⟨e, u⟩ := x
    rw [found] at first
    have lt := length_lt_of_read found
    rw [first.eq_read]
    exact (behind_gives fun v (_ : v.length < u.length) => shorter v (by omega)).map _

theorem arguments_gives (shorter : ∀ t, t.length < s.length → Agrees g t) :
    (arguments g s).Gives (view (arguments? s)) := by
  rw [view_arguments?]
  refine (gapped_spelled_gives _ "(" s).bind fun _ t opening => ?_
  have lt := Text.length_lt_of_view opening
  have list := separated_gives (fun v (_ : v.length < t.length) => shorter v (by omega))
    (shorter t lt (.level .disjunction))
  have closed := list.bind (g := fun x => (view (mark? ")" x.2)).map fun y => (x.1, y.2))
    fun es u _ => (gapped_spelled_gives .character ")" u).map fun _ => es
  convert closed using 1
  · rfl
  · dsimp only
    cases read .disjunction t <;> rfl

def Rule.rank : Rule α → Nat
  | .level l => 8 - l.rank
  | .call => 1
  | .arguments => 0

theorem Rule.rank_le (rule : Rule α) : rule.rank ≤ 8 := by
  cases rule with
  | level l => exact Nat.sub_le 8 l.rank
  | call | arguments => decide

def Rule.depth (rule : Rule α) (s : List Char) : Nat := 9 * s.length + rule.rank + 1

/-- The rules come to their end on every text that the nesting is deep enough for. The induction is
on the depth: a call is on a shorter text, or on the same text and of a tighter rule. -/
theorem descend_gives : ∀ (n : Nat) ⦃α : Type⦄ (rule : Rule α) (s : List Char), rule.depth s ≤ n →
    (descend n rule s).Gives (rule.read? s) := by
  intro n
  induction n with
  | zero => exact fun _ rule s deep => absurd deep (Nat.not_succ_le_zero _)
  | succ n ih =>
    intro α rule s deep
    have shorter (t : List Char) (lt : t.length < s.length) : Agrees (descend n) t := by
      intro β other
      refine ih other t ?_
      have := other.rank_le
      simp only [Rule.depth] at deep ⊢
      omega
    have tighter {β : Type} {other : Rule β} {t : List Char} (le : t.length ≤ s.length)
        (lower : other.rank < rule.rank) : (descend n other t).Gives (other.read? t) := by
      refine ih other t ?_
      simp only [Rule.depth] at deep ⊢
      omega
    have le := (Text.skipGap_suffix s).length_le
    have advances := descend_advances n
    cases rule with
    | level l =>
      cases l with
      | disjunction | conjunction | sum | product =>
        exact chain_gives advances (by simp [Chains]) shorter (tighter le_rfl (by decide))
      | comparison => exact comparison_gives shorter (tighter le_rfl (by decide))
      | signed => exact signed_gives shorter (tighter le_rfl (by decide))
      | operand => exact operand_gives shorter (tighter le (by decide))
    | call => exact call_gives shorter
    | arguments => exact arguments_gives shorter

theorem startsName_of_identifier? (h : view (identifier? s) = none) :
    ∀ c ∈ s.head?, startsName c = false := by
  cases s with
  | nil => nofun
  | cons c s =>
    intro d found
    cases found
    simp only [identifier?] at h
    split at h
    · cases h
    · next closed => exact Bool.eq_false_iff.2 closed

theorem name_failed {fault : Fault} {t : List Char} (h : name s = .failed fault t) :
    fault = .tag ∧ t = s ∧ ∀ c ∈ s.head?, startsName c = false := by
  have missing : view (identifier? s) = none := by
    have gives := name_gives s
    rw [h] at gives
    generalize view (identifier? s) = found at gives
    cases gives
    rfl
  rcases Attempt.bind_eq_failed h with h | ⟨front, r, -, h⟩
  · -- The underscore is what is tried last.
    have h := Attempt.map_eq_failed (Attempt.recover_eq_failed h)
    obtain ⟨rfl, rfl⟩ := Parser.ofReader_eq_failed h
    exact ⟨rfl, rfl, startsName_of_identifier? missing⟩
  · cases Attempt.map_eq_failed h

theorem path_failed {fault : Fault} {t : List Char} (h : path s = .failed fault t) : t = s ∧
    (fault = .tag ∧ (∀ c ∈ s.head?, startsName c = false)
      ∨ fault = .verification ∧ ∃ n r, view (identifier? s) = some (n, r) ∧ isReserved n) := by
  rcases Attempt.bind_eq_failed h with h | ⟨first, r, -, h⟩
  · rcases Attempt.bind_eq_failed h with h | ⟨n, r, named, h⟩
    · obtain ⟨rfl, rfl, closed⟩ := name_failed h
      exact ⟨rfl, .inl ⟨rfl, closed⟩⟩
    · have gives := name_gives s
      rw [named] at gives
      generalize view (identifier? s) = found at gives ⊢
      cases gives
      cases reserved : isReserved n with
      | true =>
        simp only [reserved, if_true] at h
        cases h
        exact ⟨rfl, .inr ⟨rfl, n, r, rfl, reserved⟩⟩
      | false =>
        simp only [reserved, Bool.false_eq_true, if_false] at h
        cases h
  · exact absurd (Attempt.map_eq_failed h) (Parser.many_ne_failed segment_advances r)

theorem path_of_level_failed (n : Nat) (l : Level) {s : List Char} {fault : Fault} {t : List Char}
    (h : descend n (.level l) s = .failed fault t) : path (skipGap s) = .failed fault t := by
  induction n generalizing l s with
  | zero => cases h
  | succ n ih =>
    -- What stands behind a first operand may fail, but not so that its rule does.
    have first (l : Level) {f : Expr → Parser Expr} (total : ∀ e r, f e r ≠ .failed fault t)
        (h : (Parser.bind (descend n (.level l)) f) s = .failed fault t) :
        path (skipGap s) = .failed fault t := by
      rcases Attempt.bind_eq_failed h with h | ⟨e, r, -, h⟩
      · exact ih l h
      · exact absurd h (total e r)
    cases l with
    | disjunction | conjunction | sum | product =>
      refine first _ (fun e r failed => ?_) h
      exact Parser.many_ne_failed (round_advances (descend_advances n) _) r
        (Attempt.map_eq_failed failed)
    | comparison =>
      refine first _ (fun e r failed => ?_) h
      exact Parser.opt_ne_failed (Attempt.map_eq_failed (Attempt.recover_eq_failed failed))
    | signed => exact ih .operand (Attempt.recover_eq_failed (Attempt.recover_eq_failed h))
    | operand =>
      rcases Attempt.bind_eq_failed h with h | ⟨e, r, -, ⟨⟩⟩
      exact Attempt.map_eq_failed (Attempt.recover_eq_failed (Attempt.recover_eq_failed
        (Attempt.recover_eq_failed h)))

/-- The repetitions of the grammar by their rounds. A list of arguments is repeated by its
commas. -/
inductive Repetition (g : Rules) : ∀ {α β : Type}, Parser α → Parser (List β) → Prop
  | chain (k : Level) : Chains k → Repetition g (round g k) (.many (round g k))
  | arguments : Repetition g comma (.separated comma (g (.level .disjunction)))
  | segments : Repetition g segment (.many segment)

theorem Repetition.advances {n : Nat} {β : Type} {round : Parser α} {loop : Parser (List β)}
    (h : Repetition (descend n) round loop) :
    round.Advances ∧ ∀ s fault t, loop s ≠ .failed fault t := by
  have rules := descend_advances n
  cases h with
  | chain k chains =>
    have advances := round_advances rules k
    exact ⟨advances, fun s _ _ => Parser.many_ne_failed advances s⟩
  | arguments =>
    exact ⟨comma_advances, fun s _ _ => Parser.separated_ne_failed comma_advances (rules _).keeps s⟩
  | segments => exact ⟨segment_advances, fun s _ _ => Parser.many_ne_failed segment_advances s⟩

end Descent

open Descent

/-- Why and where a text is no test. -/
inductive Rejected (s : List Char) : SyntaxFault → List Char → Prop
  | leftover {e r} : read .disjunction s = some (e, r) → skipGap r ≠ [] →
      Rejected s .leftover (skipGap r)
  | missingOperand : read .operand s = none → (∀ c ∈ (skipGap s).head?, startsName c = false) →
      Rejected s .missingOperand (skipGap s)
  | reservedWord {n r} : read .operand s = none → view (identifier? (skipGap s)) = some (n, r) →
      isReserved n → Rejected s .reservedWord (skipGap s)

variable {l : Level} {s t : List Char} {fault : SyntaxFault}

theorem Rejected.suffix (h : Rejected s fault t) : t <:+ s := by
  cases h with
  | leftover found =>
    obtain ⟨x, -, -, rfl⟩ := Text.view_eq_some found
    exact (Text.skipGap_suffix _).trans x.suffix
  | missingOperand | reservedWord => exact Text.skipGap_suffix s

theorem read_operand_eq_none (h : read l s = none) : read .operand s = none := by
  revert h
  refine forall_level (P := fun l => read l s = none → read .operand s = none) id ?_ ?_ l
  · intro h
    rw [read_signed] at h
    split at h
    · exact h
    · split at h
      · exact h
      · cases h
  · intro l loose next h
    rw [read_loose loose, Option.map_eq_none_iff] at h
    exact next h

theorem operandFault_of_closed (h : ∀ c ∈ s.head?, startsName c = false) :
    operandFault s = .missingOperand := by
  cases s with
  | nil => rfl
  | cons c s => simp [operandFault, h c rfl]

theorem operandFault_of_name {n : String} {r : List Char}
    (h : view (identifier? s) = some (n, r)) : operandFault s = .reservedWord := by
  cases s with
  | nil => cases h
  | cons c s =>
    simp only [identifier?] at h
    split at h
    · next starts => simp [operandFault, starts]
    · cases h

theorem whole_descend {n : Nat} (deep : 9 * (s.length + 1) ≤ n) :
    (∃ e, parse s = .ok e ∧ whole (descend n) s = .read e [])
      ∨ ∃ fault t, parse s = .error (fault, t) ∧ whole (descend n) s = .failed fault.fault t
        ∧ Rejected s fault t := by
  have gives : (descend n (.level .disjunction) (skipGap s)).Gives
      (read .disjunction (skipGap s)) := by
    refine descend_gives n _ _ ?_
    have le := (Text.skipGap_suffix s).length_le
    simp only [Rule.depth, Rule.rank, Level.rank]
    omega
  rw [parse, whole, Parser.complete, Parser.bind, Parser.gapped]
  cases found : expression? (skipGap s) with
  | none =>
    have missing : read .disjunction (skipGap s) = none := by rw [read, found]; rfl
    have operand := read_operand_eq_none missing
    rw [read_skipGap] at operand
    rw [missing] at gives
    obtain ⟨fault, t, failed⟩ := gives.exists_failed
    have place := path_of_level_failed n _ failed
    rw [skipGap_skipGap] at place
    rw [failed]
    obtain ⟨rfl, ⟨rfl, closed⟩ | ⟨rfl, m, r, named, reserved⟩⟩ := path_failed place
    · rw [operandFault_of_closed closed]
      exact .inr ⟨_, _, rfl, rfl, .missingOperand operand closed⟩
    · rw [operandFault_of_name named]
      exact .inr ⟨_, _, rfl, rfl, .reservedWord operand named reserved⟩
  | some x =>
    have first : read .disjunction (skipGap s) = some (x.value, x.rest) := by rw [read, found]; rfl
    rw [first] at gives
    rw [gives.eq_read]
    dsimp only [Attempt.bind]
    cases behind : skipGap x.rest with
    | nil => exact .inl ⟨x.value, rfl, rfl⟩
    | cons c t =>
      rw [read_skipGap] at first
      refine .inr ⟨_, _, rfl, rfl, ?_⟩
      rw [← behind]
      exact .leftover first (by rw [behind]; exact List.cons_ne_nil c t)

/-- On every text each rule of the grammar comes to its end, with calls nested no deeper than nine
for each character and nine more: it reads what the grammar has there and leaves a proper suffix of
the text, or it fails within the text. Nor does a round of a repetition ever take nothing, however
deep the calls may be nested. So every text is read as a test, or is rejected at a suffix of it, for
what is left over behind a test, or for a first operand that is missing or a reserved word. -/
theorem parseTest_progress (test : String) {n : Nat} (deep : 9 * (test.toList.length + 1) ≤ n) :
    (∀ ⦃α : Type⦄ (rule : Rule α),
      (∃ a r, descend n rule test.toList = .read a r ∧ rule.read? test.toList = some (a, r)
        ∧ Follows r test.toList)
      ∨ ∃ fault t, descend n rule test.toList = .failed fault t ∧ rule.read? test.toList = none
        ∧ t <:+ test.toList)
    ∧ (∀ (m : Nat) ⦃α β : Type⦄ (round : Parser α) (loop : Parser (List β)),
      Repetition (descend m) round loop → round.Advances ∧ ∀ s fault t, loop s ≠ .failed fault t)
    ∧ ((∃ e, parseTest test = .ok e ∧ whole (descend n) test.toList = .read e [])
      ∨ ∃ fault t, parseTest test = .error (.testSyntax test fault t)
        ∧ whole (descend n) test.toList = .failed fault.fault t
        ∧ t <:+ test.toList ∧ Rejected test.toList fault t) := by
  refine ⟨fun α rule => ?_, fun m α β round loop h => h.advances, ?_⟩
  · have gives := descend_gives n rule test.toList (by
      have := rule.rank_le
      simp only [Rule.depth]
      omega)
    have advances := descend_advances n rule
    cases found : rule.read? test.toList with
    | none =>
      rw [found] at gives
      obtain ⟨fault, t, failed⟩ := gives.exists_failed
      exact .inr ⟨fault, t, failed, rfl, advances.place failed⟩
    | some x =>
      rw [found] at gives
      exact .inl ⟨x.1, x.2, gives.eq_read, rfl, advances.rest gives.eq_read⟩
  · rcases whole_descend deep with ⟨e, parsed, read⟩ | ⟨fault, t, parsed, failed, rejected⟩
    · exact .inl ⟨e, by rw [parseTest, parsed], read⟩
    · exact .inr ⟨fault, t, by rw [parseTest, parsed], failed, rejected.suffix, rejected⟩

set_option maxRecDepth 20000 in
theorem parseTest_progress_unclosed :
    let test := "a in (not"
    9 * (test.toList.length + 1) ≤ 90
      ∧ Repetition (descend 90) comma (.separated comma (descend 90 (.level .disjunction)))
      ∧ comma.Advances ∧ parseTest test = .error (.testSyntax test .leftover "in (not".toList)
      ∧ whole (descend 90) test.toList = .failed .leftover "in (not".toList
      ∧ Rejected test.toList .leftover "in (not".toList := by
  intro test
  have deep : 9 * (test.toList.length + 1) ≤ 90 := by decide
  have list := Repetition.arguments (g := descend 90)
  have parsed : parseTest test = .error (.testSyntax test .leftover "in (not".toList) := by cbv
  obtain ⟨-, rounds, outcome⟩ := parseTest_progress test deep
  refine ⟨deep, list, (rounds 90 _ _ list).1, parsed, ?_⟩
  rcases outcome with ⟨e, read, -⟩ | ⟨fault, t, failed, reported, -, rejected⟩
  · rw [parsed] at read
    cases read
  · rw [parsed] at failed
    cases failed
    exact ⟨reported, rejected⟩

end Condition
end SqlTemplate
