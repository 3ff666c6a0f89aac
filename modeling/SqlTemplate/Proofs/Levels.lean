import SqlTemplate.Proofs.Lexeme

namespace SqlTemplate

open Text (view skipGap)

namespace Condition

variable {l : Level} {e a b : Expr} {op : BinaryOp} {s t u r : List Char}

def read : Level → List Char → Option (Expr × List Char)
  | .disjunction, s => view (expression? s)
  | .conjunction, s => view (conjunction? s)
  | .comparison, s => view (comparison? s)
  | .sum, s => view (sum? s)
  | .product, s => view (product? s)
  | .signed, s => view (signed? s)
  | .operand, s => view (operand? s)

def sign? : Level → List Char → Option (BinaryOp × List Char)
  | .disjunction, s => (view (disjunctionMark? s)).map fun (_, r) => (.or, r)
  | .conjunction, s => (view (conjunctionMark? s)).map fun (_, r) => (.and, r)
  | .comparison, s => view (comparisonMark? s)
  | .sum, s => view (sumMark? s)
  | .product, s => view (productMark? s)
  | .signed, _ | .operand, _ => none

def goOn : Level → Expr → List Char → Expr × List Char
  | .disjunction, e, s => (disjuncts e s).view
  | .conjunction, e, s => (conjuncts e s).view
  | .comparison, e, s =>
    match view (candidates? s) with
    | some (es, r) => (.within e es, r)
    | none =>
      match sign? .comparison s with
      | none => (e, s)
      | some (op, t) =>
        match read .sum t with
        | none => (e, s)
        | some (b, r) => (.binary op e b, r)
  | .sum, e, s => (summands e s).view
  | .product, e, s => (factors e s).view
  | .signed, e, s | .operand, e, s => (e, s)

def Chains (l : Level) : Prop :=
  l = .disjunction ∨ l = .conjunction ∨ l = .sum ∨ l = .product

theorem goOn_chain (chains : Chains l) (e : Expr) (s : List Char) :
    goOn l e s =
      match sign? l s with
      | none => (e, s)
      | some (op, t) =>
        match read l.next t with
        | none => (e, s)
        | some (b, u) => goOn l (.binary op e b) u := by
  rcases chains with rfl | rfl | rfl | rfl
  · simp only [goOn, sign?, read, Level.next]
    rw [disjuncts]
    cases disjunctionMark? s with
    | none => rfl
    | some mark =>
      simp only [view, Option.map_some]
      cases conjunction? mark.rest <;> rfl
  · simp only [goOn, sign?, read, Level.next]
    rw [conjuncts]
    cases conjunctionMark? s with
    | none => rfl
    | some mark =>
      simp only [view, Option.map_some]
      cases comparison? mark.rest <;> rfl
  · simp only [goOn, sign?, read, Level.next]
    rw [summands]
    cases sumMark? s with
    | none => rfl
    | some op =>
      simp only [view, Option.map_some]
      cases product? op.rest <;> rfl
  · simp only [goOn, sign?, read, Level.next]
    rw [factors]
    cases productMark? s with
    | none => rfl
    | some op =>
      simp only [view, Option.map_some]
      cases signed? op.rest <;> rfl

def Loose (l : Level) : Prop := Chains l ∨ l = .comparison

theorem forall_level {P : Level → Prop} (operand : P .operand) (signed : P .signed)
    (loosen : ∀ {l}, Loose l → P l.next → P l) (l : Level) : P l := by
  have product : P .product := loosen (by simp [Loose, Chains]) signed
  have sum : P .sum := loosen (by simp [Loose, Chains]) product
  have comparison : P .comparison := loosen (.inr rfl) sum
  have conjunction : P .conjunction := loosen (by simp [Loose, Chains]) comparison
  cases l with
  | disjunction => exact loosen (by simp [Loose, Chains]) conjunction
  | conjunction => exact conjunction
  | comparison => exact comparison
  | sum => exact sum
  | product => exact product
  | signed => exact signed
  | operand => exact operand

theorem read_loose (loose : Loose l) (s : List Char) :
    read l s = (read l.next s).map fun (e, t) => goOn l e t := by
  rcases loose with (rfl | rfl | rfl | rfl) | rfl
  · simp only [read, Level.next]
    rw [expression?]
    cases conjunction? s <;> rfl
  · simp only [read, Level.next]
    rw [conjunction?]
    cases comparison? s <;> rfl
  · simp only [read, Level.next]
    rw [sum?]
    cases product? s <;> rfl
  · simp only [read, Level.next]
    rw [product?]
    cases signed? s <;> rfl
  · simp only [read, Level.next]
    rw [comparison?]
    cases sum? s with
    | none => rfl
    | some left =>
      simp only [view, Option.map_some, goOn, sign?, read]
      cases candidates? left.rest with
      | some es => rfl
      | none =>
        simp only [Option.map_none]
        cases comparisonMark? left.rest with
        | none => rfl
        | some op =>
          simp only [Option.map_some]
          cases sum? op.rest <;> rfl

def leadingSign? (s : List Char) : Option (UnaryOp × List Char) :=
  ((view (negationMark? s)).map fun (_, t) => (.not, t)).or
    ((view (mark? "-" s)).map fun (_, t) => (.neg, t))

theorem read_signed (s : List Char) :
    read .signed s =
      match leadingSign? s with
      | none => read .operand s
      | some (op, t) =>
        match read .signed t with
        | none => read .operand s
        | some (e, r) => some (.unary op e, r) := by
  simp only [read]
  rw [signed?]
  simp only [leadingSign?]
  cases negationMark? s with
  | some mark =>
    simp only [view, Option.map_some, Option.some_or]
    cases signed? mark.rest <;> rfl
  | none =>
    simp only [view, Option.map_none, Option.none_or]
    cases mark? "-" s with
    | none => rfl
    | some mark =>
      simp only [Option.map_some]
      cases signed? mark.rest <;> rfl

theorem view_parenthesized? (s : List Char) :
    view (parenthesized? s) = (view (mark? "(" s)).bind fun (_, t) =>
      (read .disjunction t).bind fun (e, u) => (view (mark? ")" u)).map fun (_, r) => (e, r) := by
  rw [parenthesized?]
  cases mark? "(" s with
  | none => rfl
  | some opening =>
    simp only [view, Option.map_some, Option.bind_some, read]
    cases expression? opening.rest with
    | none => rfl
    | some e =>
      simp only [Option.map_some, Option.bind_some]
      cases mark? ")" e.rest <;> rfl

def front? (s : List Char) : Option (Expr × List Char) :=
  ((view (literal? s)).map fun (v, t) => (.literal v, t)).or
    ((view (call? s)).or ((view (paramPath? s)).map fun (path, t) => (.param path, t)))

theorem read_operand (s : List Char) :
    read .operand s =
      (view (parenthesized? s)).or ((front? (skipGap s)).map fun (e, t) => (e, skipGap t)) := by
  simp only [read]
  rw [operand?]
  cases parenthesized? s with
  | some e => rfl
  | none =>
    simp only [front?, view, Option.map_none, Option.none_or]
    cases literal? (skipGap s) with
    | some v => rfl
    | none =>
      cases call? (skipGap s) with
      | some e => rfl
      | none => cases paramPath? (skipGap s) <;> rfl

theorem view_call? (s : List Char) :
    view (call? s) = (view (identifier? s)).bind fun (name, t) =>
      (view (arguments? t)).map fun (es, r) => (.call name es, r) := by
  rw [call?]
  cases identifier? s with
  | none => rfl
  | some name =>
    simp only [view, Option.map_some, Option.bind_some]
    cases arguments? name.rest <;> rfl

theorem view_candidates? (s : List Char) :
    view (candidates? s) = (view (wordMark? "in" s)).bind fun (_, t) => view (arguments? t) := by
  rw [candidates?]
  cases wordMark? "in" s with
  | none => rfl
  | some mark =>
    simp only [view, Option.map_some, Option.bind_some]
    cases arguments? mark.rest <;> rfl

theorem view_arguments? (s : List Char) :
    view (arguments? s) = (view (mark? "(" s)).bind fun (_, t) =>
      match read .disjunction t with
      | none => (view (mark? ")" t)).map fun (_, r) => ([], r)
      | some (e, u) =>
        (view (mark? ")" (moreArguments u).view.2)).map fun (_, r) =>
          (e :: (moreArguments u).view.1, r) := by
  rw [arguments?]
  cases mark? "(" s with
  | none => rfl
  | some opening =>
    simp only [view, Option.map_some, Option.bind_some, read]
    cases expression? opening.rest with
    | none =>
      simp only [Option.map_none]
      cases mark? ")" opening.rest <;> rfl
    | some e =>
      simp only [Option.map_some, Text.Remainder.view]
      cases mark? ")" (moreArguments e.rest).rest <;> rfl

theorem view_moreArguments (s : List Char) :
    (moreArguments s).view =
      match view (mark? "," s) with
      | none => ([], s)
      | some (_, t) =>
        match read .disjunction t with
        | none => ([], s)
        | some (e, u) => (e :: (moreArguments u).view.1, (moreArguments u).view.2) := by
  rw [moreArguments]
  cases mark? "," s with
  | none => rfl
  | some comma =>
    simp only [view, Option.map_some, read]
    cases expression? comma.rest <;> rfl

end Condition
end SqlTemplate
