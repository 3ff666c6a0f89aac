import SqlTemplate.Text.Blank

namespace SqlTemplate.Text

def Follows (rest s : List Char) : Prop := rest <:+ s ∧ rest.length < s.length

namespace Follows

variable {r s t : List Char} {c : Char}

theorem suffix (h : Follows r s) : r <:+ s := h.1

theorem length_lt (h : Follows r s) : r.length < s.length := h.2

theorem cons (c : Char) (r : List Char) : Follows r (c :: r) := ⟨List.suffix_cons c r, by simp⟩

theorem of_suffix (h : Follows r s) (g : s <:+ t) : Follows r t :=
  ⟨h.1.trans g, Nat.lt_of_lt_of_le h.2 g.length_le⟩

theorem suffix_of (g : r <:+ s) (h : Follows s t) : Follows r t :=
  ⟨g.trans h.1, Nat.lt_of_le_of_lt g.length_le h.2⟩

theorem trans (h : Follows r s) (g : Follows s t) : Follows r t := h.of_suffix g.1

theorem step (h : Follows r s) : Follows r (c :: s) := h.of_suffix (List.suffix_cons c s)

theorem gap (h : Follows r s) : Follows (skipGap r) s := suffix_of (skipGap_suffix r) h

end Follows

/-- What is read from the front of a text, and what is left of it. -/
structure Reading (α : Type) (s : List Char) where
  value : α
  rest : List Char
  follows : Follows rest s

namespace Reading

variable {α β : Type} {s t : List Char}

theorem suffix (r : Reading α s) : r.rest <:+ s := r.follows.suffix

def map (f : α → β) (r : Reading α s) : Reading β s := ⟨f r.value, r.rest, r.follows⟩

def widen (r : Reading α s) (h : s <:+ t) : Reading α t :=
  ⟨r.value, r.rest, r.follows.of_suffix h⟩

def skipAfter (r : Reading α s) : Reading α s := ⟨r.value, skipGap r.rest, r.follows.gap⟩

end Reading

/-- What is read from the front of a text, perhaps nothing at all, and what is left of it. -/
structure Remainder (α : Type) (s : List Char) where
  value : α
  rest : List Char
  suffix : rest <:+ s

namespace Remainder

variable {α β : Type} {s t : List Char}

def map (f : α → β) (r : Remainder α s) : Remainder β s := ⟨f r.value, r.rest, r.suffix⟩

def after {γ : Type} (m : Reading γ s) (r : Remainder α m.rest) : Reading α s :=
  ⟨r.value, r.rest, .suffix_of r.suffix m.follows⟩

def widen (r : Remainder α s) (h : s <:+ t) : Remainder α t := ⟨r.value, r.rest, r.suffix.trans h⟩

end Remainder

def Reading.toRemainder {α : Type} {s : List Char} (r : Reading α s) : Remainder α s :=
  ⟨r.value, r.rest, r.suffix⟩

def Reading.after {α γ : Type} {s : List Char} (m : Reading γ s) (r : Reading α m.rest) :
    Reading α s := r.widen m.suffix

def readChar? (p : Char → Bool) : (s : List Char) → Option (Reading Char s)
  | [] => none
  | c :: s => if p c then some ⟨c, s, .cons c s⟩ else none

def readWord? (alike : Char → Char → Bool) :
    (word : List Char) → (s : List Char) → Option (Reading Unit s)
  | [], _ => none
  | _, [] => none
  | [w], c :: s => if alike w c then some ⟨(), s, .cons c s⟩ else none
  | w :: v :: word, c :: s =>
    if alike w c then (readWord? alike (v :: word) s).map (·.widen (List.suffix_cons c s))
    else none

def readRun? (p : Char → Bool) : (s : List Char) → Option (Reading (List Char) s)
  | [] => none
  | c :: s =>
    if p c then
      some ⟨c :: s.takeWhile p, s.dropWhile p, .suffix_of (List.dropWhile_suffix p) (.cons c s)⟩
    else none

end SqlTemplate.Text
