import SqlTemplate.Condition.Parser
import Mathlib.Data.List.Basic
import Mathlib.Data.List.DropRight

/-!
The grammar of tests as relations between a text and its rest: which trees may be read from the
front of the text. All ways to read it are derivations, whatever a parser would try first.
-/

namespace SqlTemplate

inductive Level : Type
  | disjunction | conjunction | comparison | sum | product | signed | operand
  deriving DecidableEq, Repr

namespace Level

def next : Level → Level
  | .disjunction => .conjunction
  | .conjunction => .comparison
  | .comparison => .sum
  | .sum => .product
  | .product => .signed
  | .signed => .operand
  | .operand => .operand

end Level

namespace BinaryOp

def mark : BinaryOp → String
  | .or => "||"
  | .and => "&&"
  | .eq => "=="
  | .notEq => "!="
  | .lt => "<"
  | .ltEq => "<="
  | .gt => ">"
  | .gtEq => ">="
  | .add => "+"
  | .sub => "-"
  | .mul => "*"
  | .div => "/"
  | .mod => "%"

def level : BinaryOp → Level
  | .or => .disjunction
  | .and => .conjunction
  | .eq | .notEq | .lt | .ltEq | .gt | .gtEq => .comparison
  | .add | .sub => .sum
  | .mul | .div | .mod => .product

def leftLevel (op : BinaryOp) : Level := if op.level = .comparison then .sum else op.level

end BinaryOp

namespace Condition

open Text (skipGap)

def EndsWord (s : List Char) : Prop := ∀ c ∈ s.head?, isWordChar c = false

def Mark (word : String) (s r : List Char) : Prop := ∃ t, s = word.toList ++ t ∧ r = skipGap t

/-- A whole word in letters of either case, at the front of a text. -/
def Keyword (word : String) (s t : List Char) : Prop :=
  ∃ w, s = w ++ t ∧ w.map Char.toLower = word.toList ∧ EndsWord t

def WordMark (word : String) (s r : List Char) : Prop := ∃ t, Keyword word s t ∧ r = skipGap t

inductive Infix : BinaryOp → List Char → List Char → Prop
  | mark {op s r} : Mark op.mark s r → Infix op s r
  | or {s r} : WordMark "or" s r → Infix .or s r
  | and {s r} : WordMark "and" s r → Infix .and s r

inductive Prefix : UnaryOp → List Char → List Char → Prop
  | bang {s r} : Mark "!" s r → Prefix .not s r
  | not {s r} : WordMark "not" s r → Prefix .not s r
  | minus {s r} : Mark "-" s r → Prefix .neg s r

def IsDigits (s : List Char) : Prop := s ≠ [] ∧ ∀ c ∈ s, c.isDigit

def decimal (whole places : List Char) : Binary64 :=
  .ofRatio false (Nat.ofDigitChars 10 (whole ++ places) 0) (Nat.pow 10 places.length)

inductive Literal : List Char → Value → List Char → Prop
  | integer {digits t} : IsDigits digits → isInteger64 (Nat.ofDigitChars 10 digits 0) →
      Literal (digits ++ t) (.integer (Nat.ofDigitChars 10 digits 0)) t
  | real {whole places t} : IsDigits whole → IsDigits places →
      Literal (whole ++ '.' :: (places ++ t)) (.real (decimal whole places)) t
  | text {quote content t} : quote = '\'' ∨ quote = '"' → quote ∉ content →
      Literal (quote :: (content ++ quote :: t)) (.text (String.ofList content)) t
  | true {s t} : Keyword "true" s t → Literal s (.boolean true) t
  | false {s t} : Keyword "false" s t → Literal s (.boolean false) t
  | nil {s t} : Keyword "nil" s t → Literal s .null t
  | null {s t} : Keyword "null" s t → Literal s .null t

def IsName (name : List Char) : Prop :=
  ∃ c cs, name = c :: cs ∧ startsName c ∧ ∀ d ∈ cs, continuesName d

def IsSegment (w : List Char) : Prop := w ≠ [] ∧ ∀ c ∈ w, isWordChar c

def IsPath (path : List Char) : Prop :=
  ∃ (name : List Char) (ws : List (List Char)), path = name ++ ws.flatMap ('.' :: ·) ∧ IsName name
    ∧ isReserved (String.ofList name) = false ∧ ∀ w ∈ ws, IsSegment w

def Name (name : String) (s t : List Char) : Prop :=
  s = name.toList ++ t ∧ IsName name.toList ∧ EndsWord t

def Path (path : String) (s t : List Char) : Prop :=
  s = path.toList ++ t ∧ IsPath path.toList ∧ EndsWord t

mutual

/-- `Phrase l s e r`: the text `s` up to its rest `r` is a test of the level `l` with the tree
`e`. Each mark, word and literal has the gap behind it. -/
inductive Phrase : Level → List Char → Expr → List Char → Prop
  | tighter {l s e r} : Phrase l.next s e r → Phrase l s e r
  | binary {op a b s t u r} : Phrase op.leftLevel s a t → Infix op t u →
      Phrase op.level.next u b r → Phrase op.level s (.binary op a b) r
  | within {a es s t u r} : Phrase .sum s a t → WordMark "in" t u → Arguments u es r →
      Phrase .comparison s (.within a es) r
  | unary {op e s t r} : Prefix op s t → Phrase .signed t e r → Phrase .signed s (.unary op e) r
  | literal {v s t} : Literal s v t → Phrase .operand s (.literal v) (skipGap t)
  | call {name es s t r} : Name name s t → Arguments (skipGap t) es r →
      Phrase .operand s (.call name es) r
  | param {path s t} : Path path s t → Phrase .operand s (.param path) (skipGap t)
  | parenthesized {e s t u r} : Mark "(" s t → Phrase .disjunction t e u → Mark ")" u r →
      Phrase .operand s e r

inductive Arguments : List Char → List Expr → List Char → Prop
  | none {s t r} : Mark "(" s t → Mark ")" t r → Arguments s [] r
  | some {e es s t u v r} : Mark "(" s t → Phrase .disjunction t e u → MoreArguments u es v →
      Mark ")" v r → Arguments s (e :: es) r

inductive MoreArguments : List Char → List Expr → List Char → Prop
  | none {s} : MoreArguments s [] s
  | some {e es s t u r} : Mark "," s t → Phrase .disjunction t e u → MoreArguments u es r →
      MoreArguments s (e :: es) r

end

/-- Whether a text is, from gap to gap, a written form of a tree. -/
def Written (test : String) (e : Expr) : Prop := Phrase .disjunction (skipGap test.toList) e []

theorem skipGap_skipGap (s : List Char) : skipGap (skipGap s) = skipGap s :=
  List.dropWhile_idempotent Text.isGap s

theorem Mark.skipGap_rest {word : String} {s r : List Char} (h : Mark word s r) :
    skipGap r = r := by
  obtain ⟨t, -, rfl⟩ := h
  exact skipGap_skipGap t

theorem WordMark.skipGap_rest {word : String} {s r : List Char} (h : WordMark word s r) :
    skipGap r = r := by
  obtain ⟨t, -, rfl⟩ := h
  exact skipGap_skipGap t

theorem Infix.skipGap_rest {op : BinaryOp} {s r : List Char} : Infix op s r → skipGap r = r
  | .mark h => h.skipGap_rest
  | .or h => h.skipGap_rest
  | .and h => h.skipGap_rest

theorem Prefix.skipGap_rest {op : UnaryOp} {s r : List Char} : Prefix op s r → skipGap r = r
  | .bang h => h.skipGap_rest
  | .not h => h.skipGap_rest
  | .minus h => h.skipGap_rest

mutual

theorem Phrase.skipGap_rest : ∀ {l s e r}, Phrase l s e r → skipGap r = r
  | _, _, _, _, .tighter h => h.skipGap_rest
  | _, _, _, _, .binary _ _ h => h.skipGap_rest
  | _, _, _, _, .within _ _ h => h.skipGap_rest
  | _, _, _, _, .unary _ h => h.skipGap_rest
  | _, _, _, _, .literal _ => skipGap_skipGap _
  | _, _, _, _, .call _ h => h.skipGap_rest
  | _, _, _, _, .param _ => skipGap_skipGap _
  | _, _, _, _, .parenthesized _ _ h => h.skipGap_rest

theorem Arguments.skipGap_rest : ∀ {s es r}, Arguments s es r → skipGap r = r
  | _, _, _, .none _ h => h.skipGap_rest
  | _, _, _, .some _ _ _ h => h.skipGap_rest

end

theorem MoreArguments.skipGap_rest : ∀ {s es r}, MoreArguments s es r → skipGap s = s →
    skipGap r = r
  | _, _, _, .none, gap => gap
  | _, _, _, .some _ first more, _ => more.skipGap_rest first.skipGap_rest

end Condition
end SqlTemplate
