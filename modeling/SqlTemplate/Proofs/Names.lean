import SqlTemplate.Proofs.Paths
import SqlTemplate.Text.Blank

namespace SqlTemplate

namespace Text

def renameHead (x y name : String) : String :=
  if headSegment name = x then y ++ String.ofList (name.toList.dropWhile (· != '.')) else name

theorem trim_append_dropWhile {y s : List Char} (front : trim y = y) (whole : trim s = s) :
    trim (y ++ s.dropWhile (· != '.')) = y ++ s.dropWhile (· != '.') := by
  apply trim_eq_self
  · intro c found
    cases y with
    | nil =>
      have dot := List.head?_dropWhile_not (· != '.') s
      rw [← List.nil_append (s.dropWhile _), found] at dot
      obtain rfl : c = '.' := by simpa using dot
      decide
    | cons d y =>
      cases found
      exact head?_trim (congrArg List.head? front)
  · intro c found
    rw [List.getLast?_append] at found
    cases last : (s.dropWhile (· != '.')).getLast? with
    | none =>
      rw [last, Option.none_or] at found
      exact getLast?_trim ((congrArg List.getLast? front).trans found)
    | some d =>
      rw [last, Option.some_or] at found
      cases found
      obtain ⟨t, same⟩ := List.dropWhile_suffix (l := s) (· != '.')
      have ends : s.getLast? = some c := by rw [← same, List.getLast?_append, last, Option.some_or]
      exact getLast?_trim ((congrArg List.getLast? whole).trans ends)

section Split

variable {separator : Char}

theorem splitOn_eq_cons (s : List Char) :
    splitOn separator s = s.takeWhile (· != separator) :: (splitOn separator s).tail := by
  induction s with
  | nil => rfl
  | cons c s ih =>
    by_cases h : c = separator
    · simp [splitOn, h]
    · rw [splitOn, if_neg h, ih]
      simp [h]

theorem splitOn_dropWhile (s : List Char) :
    splitOn separator (s.dropWhile (· != separator)) = [] :: (splitOn separator s).tail := by
  induction s with
  | nil => rfl
  | cons c s ih =>
    by_cases h : c = separator
    · simp [splitOn, h]
    · rw [List.dropWhile_cons_of_pos (by simpa using h), ih, splitOn, if_neg h, splitOn_eq_cons s]
      rfl

theorem splitOn_append {y : List Char} (plain : separator ∉ y) {s : List Char}
    {pieces : List (List Char)} (split : splitOn separator s = [] :: pieces) :
    splitOn separator (y ++ s) = y :: pieces := by
  induction y with
  | nil => exact split
  | cons c y ih =>
    obtain ⟨other, plain⟩ := List.ne_and_not_mem_of_not_mem_cons plain
    rw [List.cons_append, splitOn, if_neg other.symm, ih plain]

end Split

variable {x y name : String}

theorem segments_eq (name : String) : segments name
    = (String.ofList (name.toList.takeWhile (· != '.')),
      (splitOn '.' name.toList).tail.map String.ofList) := by
  rw [segments, splitOn_eq_cons]
  rfl

theorem headSegment_eq (name : String) :
    headSegment name = String.ofList (name.toList.takeWhile (· != '.')) := by
  rw [headSegment, segments_eq]

theorem renameHead_of_ne (h : headSegment name ≠ x) : renameHead x y name = name := if_neg h

theorem segments_renameHead (plain : '.' ∉ y.toList) (h : headSegment name = x) :
    segments (renameHead x y name) = (y, (segments name).2) := by
  rw [renameHead, if_pos h, segments, String.toList_append, String.toList_ofList,
    splitOn_append plain (splitOn_dropWhile _), segments_eq]
  simp

@[simp] theorem renameHead_self (x name : String) : renameHead x x name = name := by
  by_cases h : headSegment name = x
  · rw [renameHead, if_pos h, ← h, headSegment_eq, ← String.ofList_append,
      List.takeWhile_append_dropWhile, String.ofList_toList]
  · exact renameHead_of_ne h

end Text

open Text (headSegment renameHead)

namespace Expr

mutual

def rename (x y : String) : Expr → Expr
  | .literal v => .literal v
  | .param path => .param (renameHead x y path)
  | .call name args => .call name (renameAll x y args)
  | .unary op e => .unary op (e.rename x y)
  | .binary op l r => .binary op (l.rename x y) (r.rename x y)
  | .within e es => .within (e.rename x y) (renameAll x y es)

def renameAll (x y : String) : List Expr → List Expr
  | [] => []
  | e :: es => e.rename x y :: renameAll x y es

end

mutual

theorem rename_self (x : String) (e : Expr) : e.rename x x = e := by
  cases e with
  | literal v => rfl
  | param path => rw [rename, Text.renameHead_self]
  | call name args => rw [rename, renameAll_self x args]
  | unary op e => rw [rename, rename_self x e]
  | binary op l r => rw [rename, rename_self x l, rename_self x r]
  | within e es => rw [rename, rename_self x e, renameAll_self x es]

theorem renameAll_self (x : String) (es : List Expr) : renameAll x x es = es := by
  cases es with
  | nil => rfl
  | cons e es => rw [renameAll, rename_self x e, renameAll_self x es]

end

variable {functions : Registry} {source : Source} {x y : String}

mutual

theorem eval_rename (e : Expr) : (e.rename x y).eval functions source
    = e.eval functions fun name => source (renameHead x y name) := by
  cases e with
  | literal v => rfl
  | param path => rfl
  | call name args =>
    rw [rename, eval, eval]
    cases functions.get? name with
    | none => rfl
    | some f => simp only [evalAll_rename args]
  | unary op e =>
    have inner := eval_rename e
    cases op <;> simp only [rename, eval, inner]
  | binary op l r =>
    have left := eval_rename l
    have right := eval_rename r
    cases op <;> simp only [rename, eval, left, right]
  | within e es => simp only [rename, eval, eval_rename e, evalWithin_rename es]

theorem evalAll_rename (es : List Expr) : evalAll functions source (renameAll x y es)
    = evalAll functions (fun name => source (renameHead x y name)) es := by
  cases es with
  | nil => rfl
  | cons e es => simp only [renameAll, evalAll, eval_rename e, evalAll_rename es]

theorem evalWithin_rename (es : List Expr) (needle : Value) :
    evalWithin functions source needle (renameAll x y es)
      = evalWithin functions (fun name => source (renameHead x y name)) needle es := by
  cases es with
  | nil => rfl
  | cons e es => simp only [renameAll, evalWithin, eval_rename e, evalWithin_rename es]

end

end Expr

end SqlTemplate
