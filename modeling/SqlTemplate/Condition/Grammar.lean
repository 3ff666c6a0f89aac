import SqlTemplate.Condition.Expr
import SqlTemplate.Condition.Token

/-!
The grammar of tests. From loose to tight: `or`, `and`, one comparison or `in`, sums, products,
`not` and minus, and at last the operands. Every function reads from the front of a text, takes
the gaps around what it reads, and leaves off before an operator whose right operand fails.
-/

namespace SqlTemplate.Condition

open Text (Reading Remainder skipGap skipGap_suffix)

def disjunctionMark? (s : List Char) : Option (Reading Unit s) :=
  mark? "||" s <|> wordMark? "or" s

def conjunctionMark? (s : List Char) : Option (Reading Unit s) :=
  mark? "&&" s <|> wordMark? "and" s

def negationMark? (s : List Char) : Option (Reading Unit s) :=
  mark? "!" s <|> wordMark? "not" s

def comparisonMark? : (s : List Char) → Option (Reading BinaryOp s) :=
  firstMark? [("==", .eq), ("!=", .notEq), ("<=", .ltEq), (">=", .gtEq), ("<", .lt), (">", .gt)]

def sumMark? : (s : List Char) → Option (Reading BinaryOp s) :=
  firstMark? [("+", .add), ("-", .sub)]

def productMark? : (s : List Char) → Option (Reading BinaryOp s) :=
  firstMark? [("*", .mul), ("/", .div), ("%", .mod)]

mutual

def expression? (s : List Char) : Option (Reading Expr s) :=
  match conjunction? s with
  | none => none
  | some first => some (Remainder.after first (disjuncts first.value first.rest))
termination_by (s.length, 8)
decreasing_by
  · exact Prod.Lex.right _ (by decide)
  · exact Prod.Lex.left _ _ first.follows.length_lt

def disjuncts (left : Expr) (s : List Char) : Remainder Expr s :=
  match disjunctionMark? s with
  | none => ⟨left, s, List.suffix_rfl⟩
  | some mark =>
    match conjunction? mark.rest with
    | none => ⟨left, s, List.suffix_rfl⟩
    | some right =>
      (disjuncts (.binary .or left right.value) right.rest).widen (mark.after right).suffix
termination_by (s.length, 0)
decreasing_by
  · exact Prod.Lex.left _ _ mark.follows.length_lt
  · exact Prod.Lex.left _ _ (mark.after right).follows.length_lt

def conjunction? (s : List Char) : Option (Reading Expr s) :=
  match comparison? s with
  | none => none
  | some first => some (Remainder.after first (conjuncts first.value first.rest))
termination_by (s.length, 7)
decreasing_by
  · exact Prod.Lex.right _ (by decide)
  · exact Prod.Lex.left _ _ first.follows.length_lt

def conjuncts (left : Expr) (s : List Char) : Remainder Expr s :=
  match conjunctionMark? s with
  | none => ⟨left, s, List.suffix_rfl⟩
  | some mark =>
    match comparison? mark.rest with
    | none => ⟨left, s, List.suffix_rfl⟩
    | some right =>
      (conjuncts (.binary .and left right.value) right.rest).widen (mark.after right).suffix
termination_by (s.length, 0)
decreasing_by
  · exact Prod.Lex.left _ _ mark.follows.length_lt
  · exact Prod.Lex.left _ _ (mark.after right).follows.length_lt

def comparison? (s : List Char) : Option (Reading Expr s) :=
  match sum? s with
  | none => none
  | some left =>
    match candidates? left.rest with
    | some es => some (left.after (es.map (.within left.value)))
    | none =>
      match comparisonMark? left.rest with
      | none => some left
      | some op =>
        match sum? op.rest with
        | none => some left
        | some right =>
          some (left.after (op.after (right.map (.binary op.value left.value))))
termination_by (s.length, 6)
decreasing_by
  · exact Prod.Lex.right _ (by decide)
  · exact Prod.Lex.left _ _ left.follows.length_lt
  · exact Prod.Lex.left _ _ (left.after op).follows.length_lt

def candidates? (s : List Char) : Option (Reading (List Expr) s) :=
  match wordMark? "in" s with
  | none => none
  | some mark => (arguments? mark.rest).map mark.after
termination_by (s.length, 0)
decreasing_by exact Prod.Lex.left _ _ mark.follows.length_lt

def sum? (s : List Char) : Option (Reading Expr s) :=
  match product? s with
  | none => none
  | some first => some (Remainder.after first (summands first.value first.rest))
termination_by (s.length, 5)
decreasing_by
  · exact Prod.Lex.right _ (by decide)
  · exact Prod.Lex.left _ _ first.follows.length_lt

def summands (left : Expr) (s : List Char) : Remainder Expr s :=
  match sumMark? s with
  | none => ⟨left, s, List.suffix_rfl⟩
  | some op =>
    match product? op.rest with
    | none => ⟨left, s, List.suffix_rfl⟩
    | some right =>
      (summands (.binary op.value left right.value) right.rest).widen (op.after right).suffix
termination_by (s.length, 0)
decreasing_by
  · exact Prod.Lex.left _ _ op.follows.length_lt
  · exact Prod.Lex.left _ _ (op.after right).follows.length_lt

def product? (s : List Char) : Option (Reading Expr s) :=
  match signed? s with
  | none => none
  | some first => some (Remainder.after first (factors first.value first.rest))
termination_by (s.length, 4)
decreasing_by
  · exact Prod.Lex.right _ (by decide)
  · exact Prod.Lex.left _ _ first.follows.length_lt

def factors (left : Expr) (s : List Char) : Remainder Expr s :=
  match productMark? s with
  | none => ⟨left, s, List.suffix_rfl⟩
  | some op =>
    match signed? op.rest with
    | none => ⟨left, s, List.suffix_rfl⟩
    | some right =>
      (factors (.binary op.value left right.value) right.rest).widen (op.after right).suffix
termination_by (s.length, 0)
decreasing_by
  · exact Prod.Lex.left _ _ op.follows.length_lt
  · exact Prod.Lex.left _ _ (op.after right).follows.length_lt

/-- An operand behind any number of `not` and minus signs. A word `not` that no operand follows
may still be the name of a function. -/
def signed? (s : List Char) : Option (Reading Expr s) :=
  match negationMark? s with
  | some mark =>
    match signed? mark.rest with
    | some e => some (mark.after (e.map (.unary .not)))
    | none => operand? s
  | none =>
    match mark? "-" s with
    | some mark =>
      match signed? mark.rest with
      | some e => some (mark.after (e.map (.unary .neg)))
      | none => operand? s
    | none => operand? s
termination_by (s.length, 3)
decreasing_by
  all_goals first
    | exact Prod.Lex.right _ (by decide)
    | exact Prod.Lex.left _ _ mark.follows.length_lt

def operand? (s : List Char) : Option (Reading Expr s) :=
  match parenthesized? s with
  | some e => some e
  | none =>
    let front : Option (Reading Expr (skipGap s)) :=
      match literal? (skipGap s) with
      | some v => some (v.map .literal)
      | none =>
        match call? (skipGap s) with
        | some e => some e
        | none => (paramPath? (skipGap s)).map (·.map .param)
    front.map fun e => (e.widen (skipGap_suffix s)).skipAfter
termination_by (s.length, 2)
decreasing_by
  · exact Prod.Lex.right _ (by decide)
  · rcases Nat.lt_or_eq_of_le (skipGap_suffix s).length_le with h | h
    · exact Prod.Lex.left _ _ h
    · rw [h]
      exact Prod.Lex.right _ (by decide)

def parenthesized? (s : List Char) : Option (Reading Expr s) :=
  match mark? "(" s with
  | none => none
  | some opening =>
    match expression? opening.rest with
    | none => none
    | some e =>
      (mark? ")" e.rest).map fun closing =>
        opening.after (e.after (closing.map fun _ => e.value))
termination_by (s.length, 1)
decreasing_by exact Prod.Lex.left _ _ opening.follows.length_lt

def call? (s : List Char) : Option (Reading Expr s) :=
  match identifier? s with
  | none => none
  | some name =>
    (arguments? name.rest).map fun args => name.after (args.map (.call name.value))
termination_by (s.length, 1)
decreasing_by exact Prod.Lex.left _ _ name.follows.length_lt

def arguments? (s : List Char) : Option (Reading (List Expr) s) :=
  match mark? "(" s with
  | none => none
  | some opening =>
    match expression? opening.rest with
    | none => (mark? ")" opening.rest).map fun closing =>
        opening.after (closing.map fun _ => [])
    | some first =>
      let more := moreArguments first.rest
      (mark? ")" more.rest).map fun closing =>
        opening.after (first.after
          ((closing.map fun _ => first.value :: more.value).widen more.suffix))
termination_by (s.length, 1)
decreasing_by
  · exact Prod.Lex.left _ _ opening.follows.length_lt
  · exact Prod.Lex.left _ _ (opening.after first).follows.length_lt

def moreArguments (s : List Char) : Remainder (List Expr) s :=
  match mark? "," s with
  | none => ⟨[], s, List.suffix_rfl⟩
  | some comma =>
    match expression? comma.rest with
    | none => ⟨[], s, List.suffix_rfl⟩
    | some e => ((moreArguments e.rest).map (e.value :: ·)).widen (comma.after e).suffix
termination_by (s.length, 0)
decreasing_by
  · exact Prod.Lex.left _ _ comma.follows.length_lt
  · exact Prod.Lex.left _ _ (comma.after e).follows.length_lt

end

end SqlTemplate.Condition
