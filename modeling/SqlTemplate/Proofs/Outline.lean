import SqlTemplate.MarkedText
import Mathlib.Data.List.Basic
import Mathlib.Data.List.Induction

/-!
Outlines: statements before their placeholders are chosen. Whatever stands in the holes, filling
an outline commutes with trimming, since no placeholder has a blank in it.
-/

namespace SqlTemplate

namespace Placeholder

def isMark (c : Char) : Bool :=
  c == '?' || c == '$' || c == '@' || c == 'p' || c == ':' || c.isDigit

theorem isMark_of_mem_toString {n : Nat} {c : Char} (h : c ∈ (toString n).toList) :
    isMark c = true := by
  have digit : c.isDigit := by
    rw [Nat.toString_eq_ofList_toDigits, String.toList_ofList] at h
    exact Nat.isDigit_of_mem_toDigits (by decide) (by decide) h
  simp [isMark, digit]

theorem isMark_of_mem_format {p : Placeholder} {n : Nat} {c : Char}
    (h : c ∈ (p.format n).toList) : isMark c = true := by
  cases p with
  | question =>
    have : c = '?' := by simpa [format] using h
    subst this
    rfl
  | dollar =>
    rw [format, String.toList_append, List.mem_append] at h
    rcases h with h | h
    · have : c = '$' := by simpa using h
      subst this
      rfl
    · exact isMark_of_mem_toString h
  | atP =>
    rw [format, String.toList_append, List.mem_append] at h
    rcases h with h | h
    · have : c = '@' ∨ c = 'p' := by simpa using h
      rcases this with rfl | rfl <;> rfl
    · exact isMark_of_mem_toString h
  | colon =>
    rw [format, String.toList_append, List.mem_append] at h
    rcases h with h | h
    · have : c = ':' := by simpa using h
      subst this
      rfl
    · exact isMark_of_mem_toString h

theorem format_ne_nil (p : Placeholder) (n : Nat) : (p.format n).toList ≠ [] := by
  cases p <;> simp [format]

theorem not_isBlank_of_isMark {c : Char} (h : isMark c = true) : Text.isBlank c = false := by
  simp only [isMark, Bool.or_eq_true, beq_iff_eq] at h
  rcases h with ((((rfl | rfl) | rfl) | rfl) | rfl) | digit
  · rfl
  · rfl
  · rfl
  · rfl
  · rfl
  · obtain ⟨low, high⟩ := Char.isDigit_iff_toNat.1 digit
    have low : 48 ≤ c.toNat := low
    have high : c.toNat ≤ 57 := high
    simp [Text.isBlank]
    omega

end Placeholder

inductive Piece (α : Type) : Type
  | char : Char → Piece α
  | hole : α → Piece α

namespace Piece

variable {α β : Type}

def isBlank : Piece α → Bool
  | .char c => Text.isBlank c
  | .hole _ => false

def map (f : α → β) : Piece α → Piece β
  | .char c => .char c
  | .hole a => .hole (f a)

end Piece

abbrev Outline (α : Type) : Type := List (Piece α)

namespace Outline

variable {α β : Type}

def literal (s : List Char) : Outline α := s.map .char

def holes : Outline α → List α
  | [] => []
  | .char _ :: o => holes o
  | .hole a :: o => a :: holes o

def map (f : α → β) (o : Outline α) : Outline β := List.map (Piece.map f) o

def fill (p : Placeholder) (start : Nat) : Outline α → List Char
  | [] => []
  | .char c :: o => c :: fill p start o
  | .hole _ :: o => (p.format start).toList ++ fill p (start + 1) o

def trimLeft (o : Outline α) : Outline α := o.dropWhile Piece.isBlank

def trimRight (o : Outline α) : Outline α := (o.reverse.dropWhile Piece.isBlank).reverse

def trim (o : Outline α) : Outline α := trimRight (trimLeft o)

def toMarked : Outline Marker → MarkedText
  | [] => ⟨"", []⟩
  | .char c :: o => ⟨String.ofList [c] ++ (toMarked o).head, (toMarked o).rest⟩
  | .hole m :: o => ⟨"", (m, (toMarked o).head) :: (toMarked o).rest⟩

@[simp] theorem length_literal (s : List Char) : (literal s : Outline α).length = s.length :=
  List.length_map _

@[simp] theorem holes_literal (s : List Char) : holes (literal s : Outline α) = [] := by
  induction s with
  | nil => rfl
  | cons c s ih => exact ih

@[simp] theorem holes_append (o q : Outline α) : holes (o ++ q) = holes o ++ holes q := by
  induction o with
  | nil => rfl
  | cons x o ih => cases x <;> simp [holes, ih]

theorem holes_map (f : α → β) (o : Outline α) : holes (map f o) = (holes o).map f := by
  induction o with
  | nil => rfl
  | cons x o ih =>
    cases x with
    | char c => exact ih
    | hole a => exact congrArg (f a :: ·) ih

@[simp] theorem fill_literal (p : Placeholder) (n : Nat) (s : List Char) :
    fill p n (literal s : Outline α) = s := by
  induction s with
  | nil => rfl
  | cons c s ih => exact congrArg (c :: ·) ih

theorem fill_append (p : Placeholder) (n : Nat) (o q : Outline α) :
    fill p n (o ++ q) = fill p n o ++ fill p (n + (holes o).length) q := by
  induction o generalizing n with
  | nil => rfl
  | cons x o ih =>
    cases x with
    | char c => simp [fill, holes, ih]
    | hole a => simp [fill, holes, ih, Nat.add_assoc, Nat.add_comm 1]

theorem fill_eq_nil_iff {p : Placeholder} {n : Nat} {o : Outline α} : fill p n o = [] ↔ o = [] := by
  cases o with
  | nil => simp [fill]
  | cons x o =>
    cases x with
    | char c => simp [fill]
    | hole a => simp only [fill, List.append_eq_nil_iff, Placeholder.format_ne_nil, false_and,
        reduceCtorEq]

@[simp] theorem map_append (f : α → β) (o q : Outline α) :
    map f (o ++ q) = map f o ++ map f q := List.map_append

@[simp] theorem map_literal (f : α → β) (s : List Char) : map f (literal s) = literal s := by
  induction s with
  | nil => rfl
  | cons c s ih => exact congrArg (.char c :: ·) ih

@[simp] theorem fill_map (p : Placeholder) (n : Nat) (f : α → β) (o : Outline α) :
    fill p n (map f o) = fill p n o := by
  induction o generalizing n with
  | nil => rfl
  | cons x o ih =>
    cases x with
    | char c => exact congrArg (c :: ·) (ih n)
    | hole a => exact congrArg ((p.format n).toList ++ ·) (ih (n + 1))

theorem markers_toMarked (o : Outline Marker) : (toMarked o).markers = holes o := by
  induction o with
  | nil => rfl
  | cons x o ih =>
    cases x with
    | char c => exact ih
    | hole m => exact congrArg (m :: ·) ih

theorem withPlaceholders_toMarked (p : Placeholder) (n : Nat) (o : Outline Marker) :
    (toMarked o).withPlaceholders p n = String.ofList (fill p n o) := by
  induction o generalizing n with
  | nil => rfl
  | cons x o ih =>
    cases x with
    | char c =>
      have : (toMarked (.char c :: o)).withPlaceholders p n
          = String.ofList [c] ++ (toMarked o).withPlaceholders p n := by
        simp [toMarked, MarkedText.withPlaceholders, String.append_assoc]
      rw [this, ih, fill, ← String.ofList_append]
      rfl
    | hole m =>
      have : (toMarked (.hole m :: o)).withPlaceholders p n
          = p.format n ++ (toMarked o).withPlaceholders p (n + 1) := by
        simp [toMarked, MarkedText.withPlaceholders, MarkedText.restWithPlaceholders,
          String.append_assoc]
      rw [this, ih, fill, String.ofList_append, String.ofList_toList]

theorem trimLeft_char_of_blank {c : Char} (blank : Text.isBlank c = true) (o : Outline α) :
    trimLeft (.char c :: o) = trimLeft o := List.dropWhile_cons_of_pos blank

theorem trimLeft_char_of_not_blank {c : Char} (solid : ¬ Text.isBlank c = true)
    (o : Outline α) : trimLeft (.char c :: o) = .char c :: o := List.dropWhile_cons_of_neg solid

theorem trimRight_eq (o : Outline α) : trimRight o = (trimLeft o.reverse).reverse := rfl

theorem map_trimLeft (f : α → β) (o : Outline α) : map f (trimLeft o) = trimLeft (map f o) := by
  induction o with
  | nil => rfl
  | cons x o ih =>
    cases x with
    | char c =>
      by_cases blank : Text.isBlank c
      · rw [trimLeft_char_of_blank blank, ih]
        exact (trimLeft_char_of_blank blank _).symm
      · rw [trimLeft_char_of_not_blank blank]
        exact (trimLeft_char_of_not_blank blank _).symm
    | hole a => rfl

theorem map_trim (f : α → β) (o : Outline α) : map f (trim o) = trim (map f o) := by
  have right (q : Outline α) : map f (trimRight q) = trimRight (map f q) := by
    rw [trimRight_eq, trimRight_eq, map, List.map_reverse]
    apply congrArg List.reverse
    rw [← map, map_trimLeft, map, List.map_reverse]
    rfl
  rw [trim, right, map_trimLeft, trim]

theorem trimLeft_append_of_isMark {s : List Char} (h : ∀ c ∈ s, Placeholder.isMark c = true)
    (nonempty : s ≠ []) (t : List Char) : Text.trimLeft (s ++ t) = s ++ t := by
  refine Text.trimLeft_eq_self fun c found => ?_
  rw [List.head?_append_of_ne_nil _ nonempty] at found
  exact Placeholder.not_isBlank_of_isMark (h c (List.mem_of_mem_head? found))

theorem trimRight_append_of_isMark (s : List Char) {t : List Char}
    (h : ∀ c ∈ t, Placeholder.isMark c = true) (nonempty : t ≠ []) :
    Text.trimRight (s ++ t) = s ++ t := by
  refine Text.trimRight_eq_self fun c found => ?_
  rw [List.getLast?_append_of_ne_nil _ nonempty] at found
  exact Placeholder.not_isBlank_of_isMark (h c (List.mem_of_mem_getLast? found))

theorem fill_trimLeft (p : Placeholder) (n : Nat) (o : Outline α) :
    fill p n (trimLeft o) = Text.trimLeft (fill p n o) := by
  induction o with
  | nil => rfl
  | cons x o ih =>
    cases x with
    | char c =>
      by_cases blank : Text.isBlank c
      · rw [trimLeft_char_of_blank blank, ih]
        exact (List.dropWhile_cons_of_pos blank).symm
      · rw [trimLeft_char_of_not_blank blank]
        exact (List.dropWhile_cons_of_neg blank).symm
    | hole a =>
      have marks : ∀ c ∈ (p.format n).toList, Placeholder.isMark c = true :=
        fun _ => Placeholder.isMark_of_mem_format
      exact (trimLeft_append_of_isMark marks (Placeholder.format_ne_nil p n) _).symm

theorem fill_trimRight (p : Placeholder) (n : Nat) (o : Outline α) :
    fill p n (trimRight o) = Text.trimRight (fill p n o) := by
  induction o using List.reverseRecOn with
  | nil => rfl
  | append_singleton o x ih =>
    cases x with
    | char c =>
      rw [trimRight_eq, Text.trimRight] at ih ⊢
      rw [fill_append, fill, fill, List.reverse_append, List.reverse_append]
      by_cases blank : Text.isBlank c
      · refine (congrArg (fun q => fill p n (List.reverse q))
          (trimLeft_char_of_blank blank o.reverse)).trans (ih.trans ?_)
        exact congrArg List.reverse (List.dropWhile_cons_of_pos blank).symm
      · refine (congrArg (fun q => fill p n (List.reverse q))
          (trimLeft_char_of_not_blank blank o.reverse)).trans ?_
        refine Eq.trans ?_ (congrArg List.reverse (List.dropWhile_cons_of_neg blank).symm)
        simp [fill_append, fill]
    | hole a =>
      have kept : trimRight (o ++ [.hole a]) = o ++ [.hole a] := by
        simp [trimRight, Piece.isBlank]
      rw [kept, fill_append, fill, fill, List.append_nil, trimRight_append_of_isMark _
        (fun _ => Placeholder.isMark_of_mem_format) (Placeholder.format_ne_nil p _)]

theorem fill_trim (p : Placeholder) (n : Nat) (o : Outline α) :
    fill p n (trim o) = Text.trim (fill p n o) := by
  rw [trim, fill_trimRight, fill_trimLeft, Text.trim]

theorem holes_trimLeft (o : Outline α) : holes (trimLeft o) = holes o := by
  induction o with
  | nil => rfl
  | cons x o ih =>
    cases x with
    | char c =>
      by_cases blank : Text.isBlank c
      · rw [trimLeft_char_of_blank blank, ih, holes]
      · rw [trimLeft_char_of_not_blank blank]
    | hole a => rfl

theorem holes_reverse (o : Outline α) : holes o.reverse = (holes o).reverse := by
  induction o with
  | nil => rfl
  | cons x o ih => cases x <;> simp [holes, ih]

@[simp] theorem holes_trim (o : Outline α) : holes (trim o) = holes o := by
  have right (q : Outline α) : holes (trimRight q) = holes q := by
    rw [trimRight_eq, holes_reverse, holes_trimLeft, holes_reverse, List.reverse_reverse]
  rw [trim, right, holes_trimLeft]

theorem eq_literal_append {p : Placeholder} {n : Nat} {o : Outline α} {s t : List Char}
    (h : fill p n o = s ++ t) (plain : ∀ c ∈ s, Placeholder.isMark c = false) :
    ∃ q, o = literal s ++ q ∧ fill p n q = t := by
  induction s generalizing o with
  | nil => exact ⟨o, rfl, h⟩
  | cons c s ih =>
    have solid : Placeholder.isMark c = false := plain c List.mem_cons_self
    cases o with
    | nil => exact absurd h (by simp [fill])
    | cons x o =>
      cases x with
      | char d =>
        obtain ⟨rfl, rest⟩ := List.cons.inj h
        obtain ⟨q, rfl, filled⟩ := ih rest fun d found => plain d (List.mem_cons_of_mem _ found)
        exact ⟨q, rfl, filled⟩
      | hole a =>
        cases e : (p.format n).toList with
        | nil => exact absurd e (Placeholder.format_ne_nil p n)
        | cons d ds =>
          rw [fill, e] at h
          obtain ⟨rfl, -⟩ := List.cons.inj h
          have : Placeholder.isMark d = true :=
            Placeholder.isMark_of_mem_format (e ▸ List.mem_cons_self)
          exact absurd this (by simp [solid])

theorem eq_append_literal {p : Placeholder} {n : Nat} {o : Outline α} {s t : List Char}
    (h : fill p n o = t ++ s) (plain : ∀ c ∈ s, Placeholder.isMark c = false) :
    ∃ q, o = q ++ literal s ∧ fill p n q = t := by
  induction s using List.reverseRecOn generalizing o with
  | nil => exact ⟨o, by simp [literal], by simpa using h⟩
  | append_singleton s c ih =>
    have solid : Placeholder.isMark c = false := plain c (by simp)
    rw [← List.append_assoc] at h
    cases o using List.reverseRecOn with
    | nil => exact absurd h.symm (by simp [fill])
    | append_singleton o x =>
      cases x with
      | char d =>
        rw [fill_append] at h
        obtain ⟨rest, same⟩ := List.append_inj' h rfl
        obtain ⟨rfl, -⟩ := List.cons.inj same
        obtain ⟨q, rfl, filled⟩ :=
          ih rest fun d found => plain d (List.mem_append_left _ found)
        exact ⟨q, by simp [literal], filled⟩
      | hole a =>
        rw [fill_append, fill, fill, List.append_nil] at h
        have last := congrArg List.getLast? h
        rw [List.getLast?_append_of_ne_nil _ (Placeholder.format_ne_nil p _),
          List.getLast?_append_of_ne_nil _ (List.cons_ne_nil c [])] at last
        have : Placeholder.isMark c = true :=
          Placeholder.isMark_of_mem_format (List.mem_of_getLast? last)
        exact absurd this (by simp [solid])

end Outline
end SqlTemplate
