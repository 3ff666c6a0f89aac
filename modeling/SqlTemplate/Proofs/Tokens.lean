import SqlTemplate.Proofs.Phrase

namespace SqlTemplate

inductive Atom : Type
  | literal : Value → Atom
  | name : String → Atom
  | path : String → Atom

namespace Expr

mutual

def atoms : Expr → List Atom
  | .literal v => [.literal v]
  | .param path => [.path path]
  | .call name es => .name name :: atomsAll es
  | .unary _ e => e.atoms
  | .binary _ a b => a.atoms ++ b.atoms
  | .within e es => e.atoms ++ atomsAll es

def atomsAll : List Expr → List Atom
  | [] => []
  | e :: es => e.atoms ++ atomsAll es

end

end Expr

namespace Condition

open Text (skipGap)

def marks : List String :=
  ["||", "&&", "==", "!=", "<", "<=", ">", ">=", "+", "-", "*", "/", "%", "!", "(", ")", ","]

/-- `Tokens s as r`: the text `s` up to its rest `r` is a row of tokens, with a gap behind each
that may be empty, and `as` are those of them that are not marks or operators. -/
inductive Tokens : List Char → List Atom → List Char → Prop
  | nil {s} : Tokens s [] s
  | mark {word s t as r} : word ∈ marks → Mark word s t → Tokens t as r → Tokens s as r
  | word {word s t as r} : word ∈ ["or", "and", "not", "in"] → WordMark word s t →
      Tokens t as r → Tokens s as r
  | literal {v s t as r} : Literal s v t → Tokens (skipGap t) as r →
      Tokens s (.literal v :: as) r
  | name {name s t as r} : Name name s t → Tokens (skipGap t) as r → Tokens s (.name name :: as) r
  | path {path s t as r} : Path path s t → Tokens (skipGap t) as r → Tokens s (.path path :: as) r

variable {s t r : List Char} {as bs : List Atom}

theorem Tokens.append (h : Tokens s as t) (g : Tokens t bs r) : Tokens s (as ++ bs) r := by
  induction h with
  | nil => exact g
  | mark listed word _ ih => exact .mark listed word (ih g)
  | word listed word _ ih => exact .word listed word (ih g)
  | literal literal _ ih => exact .literal literal (ih g)
  | name name _ ih => exact .name name (ih g)
  | path path _ ih => exact .path path (ih g)

theorem Infix.tokens {op : BinaryOp} (h : Infix op s t) (more : Tokens t as r) : Tokens s as r := by
  cases h with
  | mark mark => exact .mark (by cases op <;> decide) mark more
  | or word | and word => exact .word (by decide) word more

theorem Prefix.tokens {op : UnaryOp} (h : Prefix op s t) (more : Tokens t as r) :
    Tokens s as r := by
  cases h with
  | bang mark | minus mark => exact .mark (by decide) mark more
  | not word => exact .word (by decide) word more

mutual

theorem Phrase.tokens : ∀ {l s e r}, Phrase l s e r → Tokens s e.atoms r
  | _, _, _, _, .tighter h => h.tokens
  | _, _, _, _, .binary left sign right => left.tokens.append (sign.tokens right.tokens)
  | _, _, _, _, .within left word list =>
    left.tokens.append (.word (by decide) word list.tokens)
  | _, _, _, _, .unary sign h => sign.tokens h.tokens
  | _, _, _, _, .literal h => .literal h .nil
  | _, _, _, _, .call named list => .name named list.tokens
  | _, _, _, _, .param h => .path h .nil
  | _, _, _, _, .parenthesized opening h closing => by
    have inner := h.tokens.append (.mark (by decide) closing .nil)
    rw [List.append_nil] at inner
    exact .mark (by decide) opening inner

theorem Arguments.tokens : ∀ {s es r}, Arguments s es r → Tokens s (Expr.atomsAll es) r
  | _, _, _, .none opening closing => .mark (by decide) opening (.mark (by decide) closing .nil)
  | _, _, _, .some opening first more closing => by
    have inner := first.tokens.append (more.tokens.append (.mark (by decide) closing .nil))
    rw [List.append_nil] at inner
    exact .mark (by decide) opening inner

theorem MoreArguments.tokens : ∀ {s es r}, MoreArguments s es r → Tokens s (Expr.atomsAll es) r
  | _, _, _, .none => .nil
  | _, _, _, .some comma first more => .mark (by decide) comma (first.tokens.append more.tokens)

end

end Condition
end SqlTemplate
