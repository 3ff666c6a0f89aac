import SqlTemplate.Proofs.Reading

namespace SqlTemplate.Text

inductive Fault : Type
  | tag | character | letter | digit | run | boundary | conversion | verification | leftover
  | repetition
  deriving DecidableEq, Repr

inductive Attempt (α : Type) : Type
  | read : (value : α) → (rest : List Char) → Attempt α
  | failed : Fault → (place : List Char) → Attempt α
  | unfinished : Attempt α

abbrev Parser (α : Type) : Type := List Char → Attempt α

variable {α β γ : Type}

namespace Attempt

def bind : Attempt α → (α → List Char → Attempt β) → Attempt β
  | .read a r, f => f a r
  | .failed fault t, _ => .failed fault t
  | .unfinished, _ => .unfinished

def map (f : α → β) (x : Attempt α) : Attempt β := x.bind fun a r => .read (f a) r

def recover : Attempt α → Attempt α → Attempt α
  | .failed _ _, y => y
  | x, _ => x

inductive Gives : Attempt α → Option (α × List Char) → Prop
  | read {a r} : Gives (.read a r) (some (a, r))
  | failed {fault t} : Gives (.failed fault t) none

variable {x y : Attempt α} {f : α → List Char → Attempt β} {a : α} {b : β} {r t : List Char}
  {fault : Fault}

theorem bind_eq_read (h : x.bind f = .read b r) : ∃ a t, x = .read a t ∧ f a t = .read b r := by
  cases x with
  | read a t => exact ⟨a, t, rfl, h⟩
  | failed | unfinished => cases h

theorem bind_eq_failed (h : x.bind f = .failed fault t) :
    x = .failed fault t ∨ ∃ a r, x = .read a r ∧ f a r = .failed fault t := by
  cases x with
  | read a r => exact .inr ⟨a, r, rfl, h⟩
  | failed =>
    cases h
    exact .inl rfl
  | unfinished => cases h

theorem map_eq_read {f : α → β} (h : x.map f = .read b r) : ∃ a, x = .read a r ∧ f a = b := by
  obtain ⟨a, t, found, ⟨⟩⟩ := bind_eq_read h
  exact ⟨a, found, rfl⟩

theorem map_eq_failed {f : α → β} (h : x.map f = .failed fault t) : x = .failed fault t := by
  rcases bind_eq_failed h with h | ⟨_, _, -, ⟨⟩⟩
  exact h

theorem map_map (f : α → β) (g : β → γ) (x : Attempt α) :
    (x.map f).map g = x.map fun a => g (f a) := by
  cases x <;> rfl

theorem recover_eq_read (h : x.recover y = .read a r) : x = .read a r ∨ y = .read a r := by
  cases x with
  | read | unfinished => exact .inl h
  | failed => exact .inr h

theorem recover_eq_failed (h : x.recover y = .failed fault t) : y = .failed fault t := by
  cases x with
  | failed => exact h
  | read | unfinished => cases h

theorem Gives.bind {found : Option (α × List Char)} {g : α × List Char → Option (β × List Char)}
    (h : x.Gives found) (next : ∀ a r, found = some (a, r) → (f a r).Gives (g (a, r))) :
    (x.bind f).Gives (found.bind g) := by
  cases h with
  | read => exact next _ _ rfl
  | failed => exact .failed

theorem Gives.map {found : Option (α × List Char)} (f : α → β) (h : x.Gives found) :
    (x.map f).Gives (found.map fun (a, r) => (f a, r)) := by
  cases h with
  | read => exact .read
  | failed => exact .failed

theorem Gives.recover {found other : Option (α × List Char)} (h : x.Gives found)
    (g : y.Gives other) : (x.recover y).Gives (found.or other) := by
  cases h with
  | read => exact .read
  | failed => exact g

theorem Gives.eq_read (h : x.Gives (some (a, r))) : x = .read a r := by
  cases h
  rfl

theorem Gives.exists_failed (h : x.Gives none) : ∃ fault t, x = .failed fault t := by
  cases h
  exact ⟨_, _, rfl⟩

end Attempt

namespace Parser

def ofReader (fault : Fault) (read? : (s : List Char) → Option (Reading α s)) : Parser α := fun s =>
  match view (read? s) with
  | some (a, r) => .read a r
  | none => .failed fault s

def bind (p : Parser α) (q : α → Parser β) : Parser β := fun s => (p s).bind q

def map (f : α → β) (p : Parser α) : Parser β := fun s => (p s).map f

def as (p : Parser α) (b : β) : Parser β := p.map fun _ => b

def pair (p : Parser α) (q : Parser β) : Parser (α × β) := p.bind fun a => q.map fun b => (a, b)

def or (p q : Parser α) : Parser α := fun s => (p s).recover (q s)

def opt (p : Parser α) : Parser (Option α) := fun s => ((p s).map some).recover (.read none s)

def sift (fault : Fault) (f : α → Option β) (p : Parser α) : Parser β := fun s =>
  (p s).bind fun a r =>
    match f a with
    | some b => .read b r
    | none => .failed fault s

def gapped (p : Parser α) : Parser α := fun s =>
  (p (skipGap s)).bind fun a r => .read a (skipGap r)

def run (c : Char → Bool) : Parser (List Char) := fun s => .read (s.takeWhile c) (s.dropWhile c)

def notBefore (c : Char → Bool) : Parser Unit := fun s =>
  if s.head?.any c then .failed .boundary s else .read () s

def complete (p : Parser α) : Parser α := p.bind fun a r =>
  if r.isEmpty then .read a r else .failed .leftover r

/-- Rounds up to the first one that fails. A round that takes nothing would be repeated for ever,
and is a failure of the whole. -/
def many (p : Parser α) (s : List Char) : Attempt (List α) :=
  match p s with
  | .failed _ _ => .read [] s
  | .unfinished => .unfinished
  | .read a r => if r.length < s.length then (many p r).map (a :: ·) else .failed .repetition s
termination_by s.length

def behind (sep : Parser β) (p : Parser α) (s : List Char) : Attempt (List α) :=
  match sep s with
  | .failed _ _ => .read [] s
  | .unfinished => .unfinished
  | .read _ t =>
    if t.length < s.length then
      match p t with
      | .failed _ _ => .read [] s
      | .unfinished => .unfinished
      | .read a r =>
        -- What an element leaves is never longer than what it started from.
        if r.length < s.length then (behind sep p r).map (a :: ·) else .failed .repetition t
    else .failed .repetition t
termination_by s.length

def separated (sep : Parser β) (p : Parser α) : Parser (List α) := fun s =>
  match p s with
  | .failed _ _ => .read [] s
  | .unfinished => .unfinished
  | .read a r => (behind sep p r).map (a :: ·)

class IsRest (R : List Char → List Char → Prop) : Prop where
  suffix : ∀ {r s}, R r s → r <:+ s
  suffix_of : ∀ {r s t}, r <:+ s → R s t → R r t
  of_suffix : ∀ {r s t}, R r s → s <:+ t → R r t

instance : IsRest Follows := ⟨Follows.suffix, Follows.suffix_of, Follows.of_suffix⟩

instance : IsRest (fun r s : List Char => r <:+ s) := ⟨id, List.IsSuffix.trans, List.IsSuffix.trans⟩

structure Leaves (R : List Char → List Char → Prop) (p : Parser α) : Prop where
  rest : ∀ {s a r}, p s = .read a r → R r s
  place : ∀ {s fault t}, p s = .failed fault t → t <:+ s

abbrev Keeps (p : Parser α) : Prop := p.Leaves (· <:+ ·)

/-- A parser that moves on: what it leaves is a proper suffix of its text. -/
abbrev Advances (p : Parser α) : Prop := p.Leaves Follows

variable {R : List Char → List Char → Prop} {p : Parser α} {q : Parser β}

theorem ofReader_eq_failed {missing fault : Fault}
    {read? : (s : List Char) → Option (Reading α s)} {s t : List Char}
    (h : ofReader missing read? s = .failed fault t) : fault = missing ∧ t = s := by
  simp only [ofReader] at h
  split at h <;> cases h
  exact ⟨rfl, rfl⟩

theorem ofReader_advances (fault : Fault) (read? : (s : List Char) → Option (Reading α s)) :
    (ofReader fault read?).Advances := by
  constructor
  · intro s a r h
    simp only [ofReader] at h
    split at h
    · next found =>
      cases h
      obtain ⟨x, -, -, rfl⟩ := view_eq_some found
      exact x.follows
    · cases h
  · intro s missing t failed
    obtain ⟨-, rfl⟩ := ofReader_eq_failed failed
    exact List.suffix_rfl

theorem Leaves.map (f : α → β) (h : p.Leaves R) : (p.map f).Leaves R := by
  constructor
  · intro s b r found
    obtain ⟨a, found, -⟩ := Attempt.map_eq_read found
    exact h.rest found
  · intro s fault t failed
    exact h.place (Attempt.map_eq_failed failed)

theorem Leaves.or {p' : Parser α} (h : p.Leaves R) (g : p'.Leaves R) : (p.or p').Leaves R := by
  constructor
  · intro s a r found
    rcases Attempt.recover_eq_read found with found | found
    · exact h.rest found
    · exact g.rest found
  · intro s fault t failed
    exact g.place (Attempt.recover_eq_failed failed)

theorem Leaves.sift {fault : Fault} {f : α → Option β} (h : p.Leaves R) :
    (p.sift fault f).Leaves R := by
  constructor
  · intro s b r found
    obtain ⟨a, r', found, passed⟩ := Attempt.bind_eq_read found
    split at passed
    · cases passed
      exact h.rest found
    · cases passed
  · intro s _ t failed
    rcases Attempt.bind_eq_failed failed with failed | ⟨a, r, -, failed⟩
    · exact h.place failed
    · split at failed
      · cases failed
      · cases failed
        exact List.suffix_rfl

variable [IsRest R]

theorem Leaves.keeps (h : p.Leaves R) : p.Keeps :=
  ⟨fun found => IsRest.suffix (h.rest found), h.place⟩

theorem Leaves.bind {q : α → Parser β} (h : p.Leaves R) (g : ∀ a, (q a).Keeps) :
    (p.bind q).Leaves R := by
  constructor
  · intro s b r found
    obtain ⟨a, t, first, second⟩ := Attempt.bind_eq_read found
    exact IsRest.suffix_of ((g a).rest second) (h.rest first)
  · intro s fault t failed
    rcases Attempt.bind_eq_failed failed with failed | ⟨a, r, first, failed⟩
    · exact h.place failed
    · exact ((g a).place failed).trans (IsRest.suffix (h.rest first))

theorem Leaves.pair (h : p.Leaves R) (g : q.Keeps) : (p.pair q).Leaves R :=
  h.bind fun _ => g.map _

theorem Leaves.gapped (h : p.Leaves R) : p.gapped.Leaves R := by
  constructor
  · intro s b r found
    obtain ⟨a, t, first, ⟨⟩⟩ := Attempt.bind_eq_read found
    exact IsRest.suffix_of (skipGap_suffix t) (IsRest.of_suffix (h.rest first) (skipGap_suffix s))
  · intro s fault t failed
    rcases Attempt.bind_eq_failed failed with failed | ⟨a, r, -, ⟨⟩⟩
    exact (h.place failed).trans (skipGap_suffix s)

theorem opt_ne_failed {s : List Char} {fault : Fault} {t : List Char} :
    p.opt s ≠ .failed fault t := fun failed => by
  cases Attempt.recover_eq_failed failed

theorem Leaves.opt (h : p.Leaves R) : p.opt.Keeps := by
  constructor
  · intro s b r found
    rcases Attempt.recover_eq_read found with found | same
    · obtain ⟨a, found, -⟩ := Attempt.map_eq_read found
      exact IsRest.suffix (h.rest found)
    · cases same
      exact List.suffix_rfl
  · intro s fault t failed
    exact absurd failed opt_ne_failed

theorem run_keeps (c : Char → Bool) : (run c).Keeps := by
  constructor
  · rintro s a r ⟨⟩
    exact List.dropWhile_suffix c
  · rintro s fault t ⟨⟩

theorem notBefore_keeps (c : Char → Bool) : (notBefore c).Keeps := by
  constructor
  · intro s a r found
    simp only [notBefore] at found
    split at found <;> cases found
    exact List.suffix_rfl
  · intro s fault t failed
    simp only [notBefore] at failed
    split at failed <;> cases failed
    exact List.suffix_rfl

theorem many_ne_failed (h : p.Advances) (s : List Char) {fault : Fault} {t : List Char} :
    many p s ≠ .failed fault t := by
  intro failed
  rw [many] at failed
  split at failed
  · cases failed
  · cases failed
  · next a r found =>
    have lt := (h.rest found).length_lt
    rw [if_pos lt] at failed
    exact many_ne_failed h r (Attempt.map_eq_failed failed)
termination_by s.length

theorem many_rest (h : p.Advances) {s : List Char} {as : List α} {r : List Char}
    (found : many p s = .read as r) : r <:+ s := by
  rw [many] at found
  split at found
  · cases found
    exact List.suffix_rfl
  · cases found
  · next a t first =>
    have follows := h.rest first
    have lt := follows.length_lt
    rw [if_pos lt] at found
    obtain ⟨as, found, -⟩ := Attempt.map_eq_read found
    exact (many_rest h found).trans follows.suffix
termination_by s.length

theorem many_keeps (h : p.Advances) : Keeps (many p) :=
  ⟨many_rest h, fun failed => absurd failed (many_ne_failed h _)⟩

theorem many_of_read (h : p.Advances) {s : List Char} {a : α} {r : List Char}
    (found : p s = .read a r) : many p s = (many p r).map (a :: ·) := by
  rw [many, found]
  exact if_pos (h.rest found).length_lt

theorem many_of_failed {s : List Char} {fault : Fault} {t : List Char}
    (failed : p s = .failed fault t) : many p s = .read [] s := by
  rw [many, failed]

theorem behind_ne_failed (sep : q.Advances) (h : p.Keeps) (s : List Char) {fault : Fault}
    {t : List Char} : behind q p s ≠ .failed fault t := by
  intro failed
  rw [behind] at failed
  split at failed
  · cases failed
  · cases failed
  · next b u found =>
    have lt := (sep.rest found).length_lt
    rw [if_pos lt] at failed
    split at failed
    · cases failed
    · cases failed
    · next a r element =>
      have lt' := Nat.lt_of_le_of_lt (h.rest element).length_le lt
      rw [if_pos lt'] at failed
      exact behind_ne_failed sep h r (Attempt.map_eq_failed failed)
termination_by s.length

theorem behind_rest (sep : q.Advances) (h : p.Keeps) {s : List Char} {as : List α} {r : List Char}
    (found : behind q p s = .read as r) : r <:+ s := by
  rw [behind] at found
  split at found
  · cases found
    exact List.suffix_rfl
  · cases found
  · next b u first =>
    have follows := sep.rest first
    have lt := follows.length_lt
    rw [if_pos lt] at found
    split at found
    · cases found
      exact List.suffix_rfl
    · cases found
    · next a r element =>
      have suffix := h.rest element
      have lt' := Nat.lt_of_le_of_lt suffix.length_le lt
      rw [if_pos lt'] at found
      obtain ⟨as, found, -⟩ := Attempt.map_eq_read found
      exact ((behind_rest sep h found).trans suffix).trans follows.suffix
termination_by s.length

theorem separated_ne_failed (sep : q.Advances) (h : p.Keeps) (s : List Char) {fault : Fault}
    {t : List Char} : separated q p s ≠ .failed fault t := by
  intro failed
  simp only [separated] at failed
  split at failed
  · cases failed
  · cases failed
  · exact behind_ne_failed sep h _ (Attempt.map_eq_failed failed)

theorem separated_keeps (sep : q.Advances) (h : p.Keeps) : (separated q p).Keeps := by
  constructor
  · intro s as r found
    simp only [separated] at found
    split at found
    · cases found
      exact List.suffix_rfl
    · cases found
    · next first =>
      obtain ⟨as, found, -⟩ := Attempt.map_eq_read found
      exact (behind_rest sep h found).trans (h.rest first)
  · intro s fault t failed
    exact absurd failed (separated_ne_failed sep h s)

variable {s : List Char} {found : Option (α × List Char)}

theorem ofReader_gives (fault : Fault) (read? : (s : List Char) → Option (Reading α s))
    (s : List Char) : (ofReader fault read? s).Gives (view (read? s)) := by
  simp only [ofReader]
  cases view (read? s) with
  | none => exact .failed
  | some x => exact .read

theorem gapped_gives (h : (p (skipGap s)).Gives found) :
    (p.gapped s).Gives (found.map fun (a, r) => (a, skipGap r)) := by
  rw [gapped]
  generalize p (skipGap s) = x at h ⊢
  cases h with
  | read => exact .read
  | failed => exact .failed

theorem gapped_or (p p' : Parser α) (s : List Char) :
    (p.or p').gapped s = (p.gapped s).recover (p'.gapped s) := by
  simp only [gapped, or]
  cases p (skipGap s) <;> rfl

theorem gapped_map (f : α → β) (p : Parser α) (s : List Char) :
    (p.map f).gapped s = (p.gapped s).map f := by
  simp only [gapped, map]
  cases p (skipGap s) <;> rfl

theorem opt_gives (h : (p s).Gives found) :
    (p.opt s).Gives (some (found.elim (none, s) fun (a, r) => (some a, r))) := by
  rw [opt]
  generalize p s = x at h ⊢
  cases h with
  | read => exact .read
  | failed => exact .read

theorem sift_gives (fault : Fault) (f : α → Option β) (h : (p s).Gives found) :
    (p.sift fault f s).Gives (found.bind fun (a, r) => (f a).map fun b => (b, r)) := by
  rw [sift]
  refine h.bind fun a r _ => ?_
  dsimp only
  cases f a with
  | none => exact .failed
  | some b => exact .read

end Parser
end SqlTemplate.Text
