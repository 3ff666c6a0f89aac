import SqlTemplate.Proofs.Phrase
import Mathlib.Data.List.Forall2

namespace SqlTemplate.Text

variable {α β : Type} {p : Char → Bool} {s t r : List Char}

def view (x? : Option (Reading α s)) : Option (α × List Char) :=
  x?.map fun x => (x.value, x.rest)

theorem view_eq_some {x? : Option (Reading α s)} {a : α} (h : view x? = some (a, r)) :
    ∃ x, x? = some x ∧ x.value = a ∧ x.rest = r := by
  obtain ⟨x, found, same⟩ := Option.map_eq_some_iff.1 h
  exact ⟨x, found, congrArg Prod.fst same, congrArg Prod.snd same⟩

@[simp] theorem view_map (f : α → β) (x? : Option (Reading α s)) :
    view (x?.map (·.map f)) = (view x?).map fun (a, r) => (f a, r) := by
  cases x? <;> rfl

@[simp] theorem view_widen (h : s <:+ t) (x? : Option (Reading α s)) :
    view (x?.map (·.widen h)) = view x? := by
  cases x? <;> rfl

theorem view_skipAfter (h : s <:+ t) (x? : Option (Reading α s)) :
    view (x?.map fun x => (x.widen h).skipAfter)
      = (view x?).map fun (a, r) => (a, skipGap r) := by
  cases x? <;> rfl

theorem view_bind_after (x? : Option (Reading α s))
    (read : (t : List Char) → Option (Reading β t)) :
    view (x?.bind fun x => (read x.rest).map x.after)
      = (view x?).bind fun (_, r) => view (read r) := by
  cases x? with
  | none => rfl
  | some x =>
    simp only [Option.bind_some, view, Option.map_some]
    cases read x.rest <;> rfl

theorem view_orElse (x? y? : Option (Reading α s)) : view (x? <|> y?) = (view x?).or (view y?) := by
  cases x? <;> rfl

theorem length_lt_of_view {x? : Option (Reading α s)} {a : α} (h : view x? = some (a, r)) :
    r.length < s.length := by
  obtain ⟨x, -, -, rfl⟩ := view_eq_some h
  exact x.follows.length_lt

theorem takeWhile_append_of_stop (all : ∀ c ∈ s, p c) (stop : ∀ c ∈ t.head?, p c = false) :
    (s ++ t).takeWhile p = s ∧ (s ++ t).dropWhile p = t := by
  rw [List.takeWhile_append_of_pos all, List.dropWhile_append_of_pos all]
  cases t with
  | nil => simp
  | cons c t => simp [stop c rfl]

theorem head?_dropWhile_eq_false {c : Char} (h : c ∈ (s.dropWhile p).head?) : p c = false := by
  have := List.head?_dropWhile_not p s
  rw [Option.mem_def.1 h] at this
  simpa using this

theorem view_readChar? (p : Char → Bool) (c : Char) (s : List Char) :
    view (readChar? p (c :: s)) = if p c then some (c, s) else none := by
  simp only [readChar?]
  split <;> rfl

theorem view_readChar?_eq_some_iff {c d : Char} :
    view (readChar? (· == c) s) = some (d, r) ↔ d = c ∧ s = c :: r := by
  cases s with
  | nil => simp [readChar?, view]
  | cons e s =>
    rw [view_readChar?]
    split <;> simp_all
    exact fun _ => eq_comm

theorem view_readRun?_eq_some_iff {run : List Char} :
    view (readRun? p s) = some (run, r)
      ↔ run ≠ [] ∧ (∀ c ∈ run, p c) ∧ s = run ++ r ∧ ∀ c ∈ r.head?, p c = false := by
  constructor
  · intro h
    cases s with
    | nil => simp [readRun?, view] at h
    | cons c s =>
      simp only [readRun?] at h
      split at h
      · next held =>
        obtain ⟨rfl, rfl⟩ := by simpa [view] using h
        refine ⟨List.cons_ne_nil _ _, ?_, by simp, fun _ => head?_dropWhile_eq_false⟩
        simp only [List.mem_cons, forall_eq_or_imp, held, true_and]
        exact fun _ => List.mem_takeWhile_imp
      · simp [view] at h
  · rintro ⟨ne, all, rfl, stop⟩
    cases run with
    | nil => exact absurd rfl ne
    | cons c run =>
      have held : p c := all c List.mem_cons_self
      obtain ⟨taken, dropped⟩ :=
        takeWhile_append_of_stop (fun d found => all d (List.mem_cons_of_mem c found)) stop
      simp [readRun?, view, held, taken, dropped]

theorem readWord?_eq_some {alike : Char → Char → Bool} {word : List Char}
    {x : Reading Unit s} (h : readWord? alike word s = some x) :
    ∃ w, s = w ++ x.rest ∧ List.Forall₂ (fun a c => alike a c = true) word w := by
  fun_induction readWord? alike word s with
  | case1 => cases h
  | case2 => cases h
  | case3 w c s same =>
    cases h
    exact ⟨[c], rfl, .cons same .nil⟩
  | case4 => cases h
  | case5 w v word c s same ih =>
    obtain ⟨y, found, rfl⟩ := Option.map_eq_some_iff.1 h
    obtain ⟨u, rest, spelled⟩ := ih found
    exact ⟨c :: u, congrArg (c :: ·) rest, .cons same spelled⟩
  | case6 => cases h

theorem view_readWord?_append {alike : Char → Char → Bool} {word w : List Char} (ne : word ≠ [])
    (h : List.Forall₂ (fun a c => alike a c = true) word w) (t : List Char) :
    view (readWord? alike word (w ++ t)) = some ((), t) := by
  induction h with
  | nil => exact absurd rfl ne
  | cons same rest ih =>
    cases rest with
    | nil => simp [readWord?, same, view]
    | cons next rest =>
      have read := ih (List.cons_ne_nil _ _)
      simp only [List.cons_append, readWord?, same, if_true, view_widen] at read ⊢
      exact read

theorem view_readWord?_eq_some_iff {alike : Char → Char → Bool} {word : List Char}
    (ne : word ≠ []) : view (readWord? alike word s) = some ((), r)
      ↔ ∃ w, s = w ++ r ∧ List.Forall₂ (fun a c => alike a c = true) word w := by
  constructor
  · intro h
    obtain ⟨x, found, -, rfl⟩ := view_eq_some h
    exact readWord?_eq_some found
  · rintro ⟨w, rfl, spelled⟩
    exact view_readWord?_append ne spelled r

def Starts (p : Char → Prop) (s : List Char) : Prop := ∃ c, s.head? = some c ∧ p c

theorem Starts.forall {p : Char → Prop} (h : Starts p s) : ∀ c ∈ s.head?, p c := by
  obtain ⟨c, head, held⟩ := h
  intro d found
  exact Option.some.inj (head.symm.trans found) ▸ held

theorem Starts.imp {p q : Char → Prop} (h : Starts p s) (imp : ∀ {c}, p c → q c) : Starts q s := by
  obtain ⟨c, head, held⟩ := h
  exact ⟨c, head, imp held⟩

def Remainder.view (x : Remainder α s) : α × List Char := (x.value, x.rest)

end SqlTemplate.Text
