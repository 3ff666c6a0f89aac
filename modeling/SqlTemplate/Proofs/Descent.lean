import SqlTemplate.Proofs.Attempt
import SqlTemplate.Proofs.Follow

/-!
The grammar of tests as rules that call each other, each with every alternative that it tries and
the failure that it reports.
-/

namespace SqlTemplate

open Text (view skipGap Parser Attempt Fault Follows)

def SyntaxFault.fault : SyntaxFault → Fault
  | .leftover => .leftover
  | .missingOperand => .tag
  | .reservedWord => .verification

namespace Condition.Descent

variable {α β : Type}

def spelled (fault : Fault) (word : String) : Parser Unit :=
  .ofReader fault (Text.readWord? (· == ·) word.toList)

def tag : String → Parser Unit := spelled .tag

def char : String → Parser Unit := spelled .character

def keyword (word : String) : Parser Unit :=
  (Parser.ofReader .tag (Text.readWord? (fun w c => c.toLower == w) word.toList)).bind fun _ =>
    .notBefore isWordChar

def name : Parser String :=
  ((Parser.ofReader .letter (Text.readRun? Char.isAlpha)).or ((tag "_").as ['_'])).bind fun front =>
    (Parser.run continuesName).map fun more => String.ofList (front ++ more)

def segment : Parser (List Char) :=
  (tag ".").bind fun _ => .ofReader .run (Text.readRun? isWordChar)

def path : Parser String :=
  (name.sift .verification fun n => if isReserved n then none else some n).bind fun first =>
    Parser.map (fun more => first ++ String.ofList (more.flatMap ('.' :: ·))) (.many segment)

def digits : Parser (List Char) := .ofReader .digit (Text.readRun? Char.isDigit)

def numeral : List Char × Option (List Char) → Option Value
  | (whole, some places) => some (.real (decimal whole places))
  | (whole, none) =>
    if isInteger64 (Nat.ofDigitChars 10 whole 0)
    then some (.integer (Nat.ofDigitChars 10 whole 0)) else none

def number : Parser Value :=
  (digits.pair ((char ".").bind fun _ => digits).opt).sift .conversion numeral

def quoted (quote : Char) : Parser Value :=
  (Parser.ofReader .character (Text.readChar? (· == quote))).bind fun _ =>
    (Parser.run (· != quote)).bind fun content =>
      (Parser.ofReader .character (Text.readChar? (· == quote))).as (.text (String.ofList content))

def literal : Parser Value :=
  number.or ((quoted '\'').or ((quoted '"').or (((keyword "true").as (.boolean true)).or
    (((keyword "false").as (.boolean false)).or
      (((keyword "nil").as .null).or ((keyword "null").as .null))))))

def firstOf (fault : Fault) : List (String × α) → Parser α
  | [] => .failed fault
  | (word, a) :: marks => ((spelled fault word).as a).or (firstOf fault marks)

def sign : Level → Parser BinaryOp
  | .disjunction => ((tag "||").or (keyword "or")).gapped.as .or
  | .conjunction => ((tag "&&").or (keyword "and")).gapped.as .and
  | .comparison => (firstOf .tag
      [("==", .eq), ("!=", .notEq), ("<=", .ltEq), (">=", .gtEq), ("<", .lt), (">", .gt)]).gapped
  | .sum => (firstOf .character [("+", .add), ("-", .sub)]).gapped
  | .product => (firstOf .character [("*", .mul), ("/", .div), ("%", .mod)]).gapped
  | .signed | .operand => .failed .tag

def negation : Parser Unit := ((tag "!").or (keyword "not")).gapped

def minus : Parser Unit := (char "-").gapped

def comma : Parser Unit := (char ",").gapped

inductive Rule : Type → Type
  | level : Level → Rule Expr
  | call : Rule Expr
  | arguments : Rule (List Expr)

abbrev Rules : Type 1 := ∀ ⦃α : Type⦄, Rule α → Parser α

def round (g : Rules) (l : Level) : Parser (BinaryOp × Expr) := (sign l).pair (g (.level l.next))

def chain (g : Rules) (l : Level) : Parser Expr :=
  (g (.level l.next)).bind fun first =>
    Parser.map (fun rest => rest.foldl (fun left (op, right) => .binary op left right) first)
      (.many (round g l))

def candidates (g : Rules) : Parser (List Expr) :=
  (keyword "in").gapped.bind fun _ => g .arguments

def compared (left : Expr) : Option (BinaryOp × Expr) → Expr
  | some (op, right) => .binary op left right
  | none => left

def comparison (g : Rules) : Parser Expr :=
  (g (.level .sum)).bind fun left =>
    ((candidates g).map (.within left)).or ((round g .comparison).opt.map (compared left))

def signed (g : Rules) : Parser Expr :=
  ((negation.bind fun _ => g (.level .signed)).map (.unary .not)).or
    (((minus.bind fun _ => g (.level .signed)).map (.unary .neg)).or (g (.level .operand)))

def parenthesized (g : Rules) : Parser Expr :=
  (char "(").bind fun _ => (g (.level .disjunction)).bind fun e => (char ")").as e

def operand (g : Rules) : Parser Expr :=
  ((parenthesized g).or ((literal.map .literal).or ((g .call).or (path.map .param)))).gapped

def call (g : Rules) : Parser Expr := name.bind fun name => (g .arguments).map (.call name)

def arguments (g : Rules) : Parser (List Expr) :=
  (char "(").gapped.bind fun _ =>
    (Parser.separated comma (g (.level .disjunction))).bind fun es => (char ")").gapped.as es

def body (g : Rules) : Rules
  | _, .level .comparison => comparison g
  | _, .level .signed => signed g
  | _, .level .operand => operand g
  | _, .level .disjunction => chain g .disjunction
  | _, .level .conjunction => chain g .conjunction
  | _, .level .sum => chain g .sum
  | _, .level .product => chain g .product
  | _, .call => call g
  | _, .arguments => arguments g

/-- The rules with calls nested to some depth. A call that is nested deeper is not made, and
whatever waits for it is unfinished. -/
def descend : Nat → Rules
  | 0, _, _ => fun _ => .unfinished
  | n + 1, _, rule => body (descend n) rule

def whole (g : Rules) : Parser Expr := (g (.level .disjunction)).gapped.complete

theorem failed_advances (fault : Fault) : Parser.Advances (α := α) (.failed fault) := by
  constructor
  · rintro s a r ⟨⟩
  · rintro s _ t ⟨⟩
    exact List.suffix_rfl

theorem spelled_advances (fault : Fault) (word : String) : (spelled fault word).Advances :=
  Parser.ofReader_advances _ _

theorem keyword_advances (word : String) : (keyword word).Advances :=
  (Parser.ofReader_advances _ _).bind fun _ => Parser.notBefore_keeps isWordChar

theorem name_advances : name.Advances :=
  ((Parser.ofReader_advances _ _).or ((spelled_advances _ _).map _)).bind fun _ =>
    (Parser.run_keeps continuesName).map _

theorem segment_advances : segment.Advances :=
  (spelled_advances _ _).bind fun _ => (Parser.ofReader_advances _ _).keeps

theorem path_advances : path.Advances :=
  name_advances.sift.bind fun _ => (Parser.many_keeps segment_advances).map _

theorem number_advances : number.Advances := by
  have places : ((char ".").bind fun _ => digits).Advances :=
    (spelled_advances _ _).bind fun _ => (Parser.ofReader_advances _ _).keeps
  exact ((Parser.ofReader_advances _ _).pair places.opt).sift

theorem quoted_advances (quote : Char) : (quoted quote).Advances :=
  (Parser.ofReader_advances _ _).bind fun _ => (Parser.run_keeps _).bind fun _ =>
    (Parser.ofReader_advances _ _).keeps.map _

theorem literal_advances : literal.Advances :=
  number_advances.or ((quoted_advances _).or ((quoted_advances _).or
    (((keyword_advances _).map _).or (((keyword_advances _).map _).or
      (((keyword_advances _).map _).or ((keyword_advances _).map _))))))

theorem firstOf_advances (fault : Fault) (marks : List (String × α)) :
    (firstOf fault marks).Advances := by
  induction marks with
  | nil => exact failed_advances fault
  | cons m marks ih => exact ((spelled_advances fault m.1).map _).or ih

theorem sign_advances (l : Level) : (sign l).Advances := by
  cases l with
  | disjunction | conjunction =>
    exact ((spelled_advances _ _).or (keyword_advances _)).gapped.map _
  | comparison | sum | product => exact (firstOf_advances _ _).gapped
  | signed | operand => exact failed_advances _

theorem negation_advances : negation.Advances :=
  ((spelled_advances _ _).or (keyword_advances _)).gapped

theorem minus_advances : minus.Advances := (spelled_advances _ _).gapped

theorem comma_advances : comma.Advances := (spelled_advances _ _).gapped

variable {g : Rules}

theorem round_advances (h : ∀ ⦃α⦄ (rule : Rule α), (g rule).Advances) (l : Level) :
    (round g l).Advances :=
  (sign_advances l).pair (h _).keeps

theorem body_advances (h : ∀ ⦃α⦄ (rule : Rule α), (g rule).Advances) (rule : Rule α) :
    (body g rule).Advances := by
  have chained (l : Level) : (chain g l).Advances :=
    (h _).bind fun _ => (Parser.many_keeps (round_advances h l)).map _
  cases rule with
  | level l =>
    cases l with
    | disjunction | conjunction | sum | product => exact chained _
    | comparison =>
      have list : (candidates g).Advances :=
        (keyword_advances _).gapped.bind fun _ => (h .arguments).keeps
      exact (h _).bind fun _ => (list.keeps.map _).or ((round_advances h _).opt.map _)
    | signed =>
      have behind {p : Parser Unit} (sign : p.Advances) :
          (p.bind fun _ => g (.level .signed)).Advances := sign.bind fun _ => (h _).keeps
      exact ((behind negation_advances).map _).or (((behind minus_advances).map _).or (h _))
    | operand =>
      have inner : (parenthesized g).Advances :=
        (spelled_advances _ _).bind fun _ => (h _).keeps.bind fun _ =>
          (spelled_advances _ _).keeps.map _
      exact (inner.or ((literal_advances.map _).or ((h _).or (path_advances.map _)))).gapped
  | call => exact name_advances.bind fun _ => (h _).keeps.map _
  | arguments =>
    have list := Parser.separated_keeps comma_advances (h (.level .disjunction)).keeps
    have closing : ((char ")").gapped).Keeps := (spelled_advances _ _).gapped.keeps
    exact (spelled_advances _ _).gapped.bind fun _ => list.bind fun _ => closing.map _

theorem descend_advances (n : Nat) : ∀ ⦃α⦄ (rule : Rule α), (descend n rule).Advances := by
  induction n with
  | zero => exact fun _ _ => ⟨nofun, nofun⟩
  | succ n ih => exact fun _ rule => body_advances ih rule

variable {s : List Char}

theorem gapped_spelled_gives (fault : Fault) (word : String) (s : List Char) :
    ((spelled fault word).gapped s).Gives (view (mark? word s)) := by
  rw [mark?, Text.view_skipAfter]
  exact Parser.gapped_gives (Parser.ofReader_gives _ _ _)

theorem keyword_gives (word : String) (s : List Char) :
    (keyword word s).Gives (view (keyword? word s)) := by
  rw [view_keyword?, keyword, ← Option.bind_guard]
  refine (Parser.ofReader_gives _ _ s).bind fun _ t _ => ?_
  simp only [Parser.notBefore, Option.guard]
  by_cases goesOn : t.head?.any isWordChar = true
  · rw [if_pos goesOn, if_neg (by simp [goesOn])]
    exact .failed
  · rw [if_neg goesOn, if_pos (by simp [goesOn])]
    exact .read

theorem gapped_keyword_gives (word : String) (s : List Char) :
    ((keyword word).gapped s).Gives (view (wordMark? word s)) := by
  rw [wordMark?, Text.view_skipAfter]
  exact Parser.gapped_gives (keyword_gives word _)

theorem gapped_firstOf_gives (fault : Fault) (marks : List (String × α)) (s : List Char) :
    ((firstOf fault marks).gapped s).Gives (view (firstMark? marks s)) := by
  induction marks with
  | nil => exact .failed
  | cons m marks ih =>
    rw [view_firstMark?_cons, firstOf, Parser.gapped_or, Parser.as, Parser.gapped_map]
    exact ((gapped_spelled_gives fault m.1 s).map _).recover ih

theorem sign_gives (l : Level) (s : List Char) : (sign l s).Gives (sign? l s) := by
  cases l with
  | disjunction =>
    rw [sign?, disjunctionMark?, Text.view_orElse]
    refine Attempt.Gives.map _ ?_
    rw [Parser.gapped_or]
    exact (gapped_spelled_gives _ _ s).recover (gapped_keyword_gives _ s)
  | conjunction =>
    rw [sign?, conjunctionMark?, Text.view_orElse]
    refine Attempt.Gives.map _ ?_
    rw [Parser.gapped_or]
    exact (gapped_spelled_gives _ _ s).recover (gapped_keyword_gives _ s)
  | comparison | sum | product => exact gapped_firstOf_gives _ _ s
  | signed | operand => exact .failed

theorem negation_gives (s : List Char) : (negation s).Gives (view (negationMark? s)) := by
  rw [negationMark?, Text.view_orElse, negation, Parser.gapped_or]
  exact (gapped_spelled_gives _ _ s).recover (gapped_keyword_gives _ s)

theorem takeWhile_append_of_imp {p q : Char → Bool} (imp : ∀ c, p c → q c) (s : List Char) :
    s.takeWhile p ++ (s.dropWhile p).takeWhile q = s.takeWhile q
      ∧ (s.dropWhile p).dropWhile q = s.dropWhile q := by
  have all : ∀ c ∈ s.takeWhile p, q c := fun c found => imp c (List.mem_takeWhile_imp found)
  have split : s.takeWhile p ++ s.dropWhile p = s := List.takeWhile_append_dropWhile
  constructor
  · rw [← List.takeWhile_append_of_pos all, split]
  · rw [← List.dropWhile_append_of_pos all, split]

theorem continuesName_of_isAlpha (c : Char) (h : c.isAlpha) : continuesName c :=
  continuesName_of_isWordChar (by simp [isWordChar, Char.isAlphanum, h])

theorem view_identifier? (s : List Char) :
    view (identifier? s) = ((view (Text.readRun? Char.isAlpha s)).or
      ((view (Text.readWord? (· == ·) "_".toList s)).map fun (_, r) => (['_'], r))).bind
        fun (front, r) =>
          some (String.ofList (front ++ r.takeWhile continuesName), r.dropWhile continuesName) := by
  cases s with
  | nil => rfl
  | cons c s =>
    obtain ⟨taken, dropped⟩ := takeWhile_append_of_imp continuesName_of_isAlpha s
    rw [identifier?, Text.readRun?, startsName]
    cases letter : c.isAlpha with
    | true =>
      simp only [Bool.true_or, if_true, view, Option.map_some, Option.some_or, Option.bind_some,
        List.cons_append, taken, dropped]
    | false =>
      -- No letter stands in front, so the name starts with an underscore or not at all.
      by_cases underscore : c = '_'
      · subst underscore
        rfl
      · have other : ('_' == c) = false := beq_false_of_ne (Ne.symm underscore)
        simp [view, Text.readWord?, underscore, other]

theorem name_gives (s : List Char) : (name s).Gives (view (identifier? s)) := by
  rw [view_identifier?]
  have letters := Parser.ofReader_gives .letter (Text.readRun? Char.isAlpha) s
  have underscore := Parser.ofReader_gives .tag (Text.readWord? (· == ·) "_".toList) s
  exact (letters.recover (underscore.map _)).bind fun _ _ _ => .read

theorem view_readChar?_dot (s : List Char) : view (Text.readChar? (· == '.') s)
    = (view (Text.readWord? (· == ·) ".".toList s)).map fun (_, r) => ('.', r) := by
  cases s with
  | nil => rfl
  | cons d s =>
    by_cases dot : d = '.'
    · subst dot
      rfl
    · have other : ('.' == d) = false := beq_false_of_ne (Ne.symm dot)
      simp [view, Text.readChar?, Text.readWord?, dot, other]

theorem dotRun_gives (mark missing : Fault) (c : Char → Bool) (s : List Char) :
    (((spelled mark ".").bind fun _ => .ofReader missing (Text.readRun? c)) s).Gives
      (view (dotRun? c s)) := by
  rw [dotRun?, Text.view_bind_after, view_readChar?_dot, Option.bind_map]
  exact (Parser.ofReader_gives mark (Text.readWord? (· == ·) ".".toList) s).bind fun _ r _ =>
    Parser.ofReader_gives _ _ r

theorem segments_gives (s : List Char) : ∃ ws : List (List Char),
    Parser.many segment s = .read ws (segments s).rest
      ∧ (segments s).value = ws.flatMap ('.' :: ·) := by
  have first : (segment s).Gives _ := dotRun_gives .tag .run isWordChar s
  cases found : view (dotRun? isWordChar s) with
  | none =>
    rw [found] at first
    obtain ⟨fault, t, failed⟩ := first.exists_failed
    rw [Parser.many_of_failed failed, segments_nil (Option.map_eq_none_iff.1 found)]
    exact ⟨[], rfl, rfl⟩
  | some x =>
    rw [found] at first
    have read := first.eq_read
    obtain ⟨value, rest⟩ := segments_cons found
    have lt := (segment_advances.rest read).length_lt
    obtain ⟨ws, more, spelled⟩ := segments_gives x.2
    rw [Parser.many_of_read segment_advances read, more, value, rest, spelled]
    exact ⟨x.1 :: ws, rfl, rfl⟩
termination_by s.length

theorem view_paramPath?_eq_sift (s : List Char) :
    view (paramPath? s) = ((view (identifier? s)).bind fun (n, r) =>
      (if isReserved n then none else some n).map fun n => (n, r)).bind fun (first, r) =>
        some (first ++ String.ofList (segments r).value, (segments r).rest) := by
  rw [view_paramPath?, Option.bind_assoc]
  refine congrArg _ (funext fun x => ?_)
  dsimp only
  split <;> rfl

theorem path_gives (s : List Char) : (path s).Gives (view (paramPath? s)) := by
  have behind (first : String) (r : List Char) :
      (Parser.map (fun more => first ++ String.ofList (more.flatMap ('.' :: ·)))
        (.many segment) r).Gives
        (some (first ++ String.ofList (segments r).value, (segments r).rest)) := by
    obtain ⟨ws, more, spelled⟩ := segments_gives r
    rw [Parser.map, more, spelled]
    exact .read
  rw [view_paramPath?_eq_sift]
  exact (Parser.sift_gives .verification _ (name_gives s)).bind fun first r _ => behind first r

theorem view_number?_eq_sift (s : List Char) :
    view (number? s) = ((view (Text.readRun? Char.isDigit s)).bind fun (whole, r) =>
      (some ((view (dotRun? Char.isDigit r)).elim (none, r) fun (a, u) => (some a, u))).map
        fun (places, u) => ((whole, places), u)).bind fun (digits, r) =>
          (numeral digits).map fun v => (v, r) := by
  rw [view_number?, Option.bind_assoc]
  refine congrArg _ (funext fun x => ?_)
  dsimp only [Option.map_some, Option.bind_some]
  cases view (dotRun? Char.isDigit x.2) with
  | none =>
    dsimp only [Option.elim_none, numeral]
    split <;> rfl
  | some y => rfl

theorem number_gives (s : List Char) : (number s).Gives (view (number? s)) := by
  rw [view_number?_eq_sift]
  refine Parser.sift_gives .conversion numeral ?_
  exact (Parser.ofReader_gives .digit (Text.readRun? Char.isDigit) s).bind fun _ r _ =>
    (Parser.opt_gives (dotRun_gives .character .digit Char.isDigit r)).map _

theorem quoted_gives (quote : Char) (s : List Char) :
    (quoted quote s).Gives (view (quoted? quote s)) := by
  rw [view_quoted?]
  exact (Parser.ofReader_gives _ _ s).bind fun _ r _ =>
    (Parser.ofReader_gives _ _ (r.dropWhile (· != quote))).map _

theorem literal_gives (s : List Char) : (literal s).Gives (view (literal? s)) := by
  rw [view_literal?]
  exact (number_gives s).recover ((quoted_gives _ s).recover ((quoted_gives _ s).recover
    (((keyword_gives _ s).map _).recover (((keyword_gives _ s).map _).recover
      (((keyword_gives _ s).map _).recover ((keyword_gives _ s).map _))))))

end Condition.Descent
end SqlTemplate
