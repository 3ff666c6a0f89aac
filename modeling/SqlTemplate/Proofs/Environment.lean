import SqlTemplate.Proofs.Names
import SqlTemplate.Template.Render

namespace SqlTemplate

namespace Text

def steps (path : String) : List String := (splitOn '.' path.toList).map String.ofList

theorem splitOn_append_cons (separator : Char) (s t : List Char) :
    splitOn separator (s ++ separator :: t) = splitOn separator s ++ splitOn separator t := by
  induction s with
  | nil => simp [splitOn]
  | cons c s ih =>
    by_cases h : c = separator
    · rw [List.cons_append, splitOn, if_pos h, ih, splitOn, if_pos h, List.cons_append]
    · rw [List.cons_append, splitOn, if_neg h, ih, splitOn, if_neg h, splitOn_eq_cons s]
      rfl

theorem segments_append_dot (p q : String) :
    segments (p ++ "." ++ q) = (headSegment p, (segments p).2 ++ steps q) := by
  have joined : (p ++ "." ++ q).toList = p.toList ++ '.' :: q.toList := by simp
  rw [headSegment, segments, segments, joined, splitOn_append_cons, splitOn_eq_cons p.toList,
    steps]
  simp

theorem segments_of_plain {head : String} (plain : '.' ∉ head.toList) :
    segments head = (head, []) := by
  have whole : splitOn '.' head.toList = [head.toList] := by
    simpa using splitOn_append (s := []) plain rfl
  rw [segments, whole]
  simp

end Text

namespace Value

theorem child?_resolved (v : Value) (segment : String) :
    v.resolved.child? segment = v.child? segment := by
  rw [child?, child?, resolved_resolved]

theorem position?_toString (i : Nat) : position? (toString i) = some i := by
  have shown : (toString i).toList = Nat.toDigits 10 i := by
    rw [Nat.toString_eq_ofList_toDigits, String.toList_ofList]
  have digit : ∀ c ∈ Nat.toDigits 10 i, c.isDigit = true := fun c found =>
    Nat.isDigit_of_mem_toDigits (by decide) (by decide) found
  have unsigned : ∀ rest, Nat.toDigits 10 i ≠ '+' :: rest := by
    intro rest same
    cases digit '+' (same ▸ List.mem_cons_self)
  have value : Nat.ofDigitChars 10 (Nat.toDigits 10 i) 0 = i := Nat.ofDigitChars_ten_toDigits
  have all : (Nat.toDigits 10 i).all (·.isDigit) = true := List.all_eq_true.2 digit
  simp only [position?, shown]
  simp [value, Nat.toDigits_ne_nil, all]

theorem child?_list_toString (items : List Value) (i : Nat) :
    (list items).child? (toString i) = items[i]? := by
  simp only [child?, resolved, position?_toString]
  rfl

end Value

structure Scope where
  item : String
  element : Value
  index : String
  key : Value

namespace Scope

def bindings (s : Scope) : List (String × Value) := [(s.item, s.element), (s.index, s.key)]

def value? (s : Scope) (head : String) : Option Value :=
  if head = s.item then some s.element
  else if head = s.index then some s.key
  else none

theorem lookup_bindings (s : Scope) (head : String) : s.bindings.lookup head = s.value? head := by
  rw [bindings, value?, List.lookup_cons, List.lookup_cons, List.lookup_nil]
  by_cases item : head = s.item
  · rw [beq_iff_eq.2 item, if_pos item]
  · rw [beq_false_of_ne item, if_neg item]
    by_cases index : head = s.index
    · rw [beq_iff_eq.2 index, if_pos index]
    · rw [beq_false_of_ne index, if_neg index]

end Scope

namespace Source

/-- The source inside of scopes, the innermost first, over the parameters at the bottom. -/
def nested (bottom : List (String × Value)) : List Scope → Source
  | [] => .ofBindings bottom
  | s :: outer => (nested bottom outer).bind s.bindings

def binding? (bottom : List (String × Value)) (scopes : List Scope) (head : String) :
    Option Value :=
  (scopes.findSome? (·.value? head)).or (bottom.lookup head)

variable {bottom : List (String × Value)} {scopes inner outer : List Scope} {s : Scope}
  {head : String} {v : Value}

theorem binding?_of_innermost (free : ∀ t ∈ inner, t.value? head = none)
    (bound : s.value? head = some v) : binding? bottom (inner ++ s :: outer) head = some v := by
  rw [binding?, List.findSome?_append, List.findSome?_eq_none_iff.2 free, List.findSome?_cons,
    bound]
  rfl

theorem binding?_of_free (free : ∀ s ∈ scopes, s.value? head = none) :
    binding? bottom scopes head = bottom.lookup head := by
  rw [binding?, List.findSome?_eq_none_iff.2 free, Option.none_or]

theorem nested_eq (bottom : List (String × Value)) (scopes : List Scope) (name : String) :
    nested bottom scopes name = .ok ((binding? bottom scopes (Text.headSegment name)).bind
      (Value.lookup? (Text.segments name).2)) := by
  induction scopes with
  | nil => rfl
  | cons s outer ih =>
    have own := s.lookup_bindings (Text.headSegment name)
    rw [nested, binding?, List.findSome?_cons]
    cases bound : s.value? (Text.headSegment name) with
    | some v => exact bind_of_lookup (own.trans bound)
    | none => exact (bind_of_lookup_none (own.trans bound)).trans ih

theorem nested_of_plain (plain : '.' ∉ head.toList) :
    nested bottom scopes head = .ok (binding? bottom scopes head) := by
  rw [nested_eq, Text.headSegment, Text.segments_of_plain plain]
  cases binding? bottom scopes head <;> rfl

theorem nested_append_dot (bottom : List (String × Value)) (scopes : List Scope) (p q : String) :
    nested bottom scopes (p ++ "." ++ q)
      = (nested bottom scopes p).map (·.bind (Value.lookup? (Text.steps q))) := by
  rw [nested_eq, nested_eq, Text.headSegment, Text.segments_append_dot]
  cases binding? bottom scopes (Text.headSegment p) with
  | none => rfl
  | some v =>
    simp only [Option.bind_some, Value.lookup?_append]
    rfl

/-- Scopes over parameters are an environment. The first segment of a name stands for what the
innermost scope binds it to that binds it at all, or else for a parameter; the path behind it is
looked up there, in no scope further out, step by step. -/
theorem nested_environment (bottom : List (String × Value)) :
    (∀ scopes loop key element, Node.loopSource (nested bottom scopes) loop key element
      = nested bottom (⟨loop.item, element, loop.index, key⟩ :: scopes))
    ∧ (∀ inner s outer head v, (∀ t ∈ inner, t.value? head = none) → s.value? head = some v →
      binding? bottom (inner ++ s :: outer) head = some v)
    ∧ (∀ scopes head, (∀ s ∈ scopes, s.value? head = none) →
      binding? bottom scopes head = bottom.lookup head)
    ∧ (∀ scopes head, '.' ∉ head.toList →
      nested bottom scopes head = .ok (binding? bottom scopes head)
      ∧ ∀ rest, nested bottom scopes (head ++ "." ++ rest)
        = .ok ((binding? bottom scopes head).bind (Value.lookup? (Text.steps rest))))
    ∧ (∀ inner s outer head v rest, '.' ∉ head.toList → (∀ t ∈ inner, t.value? head = none) →
      s.value? head = some v → Value.lookup? (Text.steps rest) v = none →
      nested bottom (inner ++ s :: outer) (head ++ "." ++ rest) = .ok none)
    ∧ (∀ scopes p q, nested bottom scopes (p ++ "." ++ q)
      = (nested bottom scopes p).map (·.bind (Value.lookup? (Text.steps q))))
    ∧ (∀ v segment rest, Value.lookup? (segment :: rest) v
      = (v.resolved.child? segment).bind (Value.lookup? rest))
    ∧ (∀ entries key, (Value.map entries).child? key = entries.lookup key)
    ∧ ∀ items (i : Nat), (Value.list items).child? (toString i) = items[i]? := by
  have below : ∀ scopes head, '.' ∉ head.toList → ∀ rest,
      nested bottom scopes (head ++ "." ++ rest)
        = .ok ((binding? bottom scopes head).bind (Value.lookup? (Text.steps rest))) := by
    intro scopes head plain rest
    rw [nested_append_dot, nested_of_plain plain]
    rfl
  refine ⟨?_, ?_, ?_, ?_, ?_, ?_, ?_, ?_, ?_⟩
  · intro scopes loop key element
    rfl
  · intro inner s outer head v free bound
    exact binding?_of_innermost free bound
  · intro scopes head free
    exact binding?_of_free free
  · intro scopes head plain
    exact ⟨nested_of_plain plain, below scopes head plain⟩
  · intro inner s outer head v rest plain free bound missing
    rw [below _ head plain, binding?_of_innermost free bound, Option.bind_some, missing]
  · exact nested_append_dot bottom
  · intro v segment rest
    rw [Value.child?_resolved, Value.lookup?]
    rfl
  · intro entries key
    rfl
  · exact Value.child?_list_toString

theorem nested_environment_rows :
    let bottom : List (String × Value) := [("row", .integer 0), ("rows", .list [.text "a"])]
    let outside : Scope := ⟨"row", .map [("id", .integer 7)], "i", .integer 0⟩
    let inside : Scope := ⟨"row", .present (.list [.text "x", .text "y"]), "row", .integer 1⟩
    let blank : Scope := ⟨"cell", .null, "j", .integer 2⟩
    let source := nested bottom [blank, inside, outside]
    '.' ∉ "row".toList ∧ (∀ t ∈ [blank], t.value? "row" = none)
      ∧ inside.value? "row" = some inside.element
      ∧ Value.lookup? (Text.steps "id") inside.element = none
      ∧ source "row.id" = .ok none
      ∧ source ("row" ++ "." ++ "1") = (source "row").map (·.bind (Value.lookup? ["1"]))
      ∧ source "row.1" = .ok (some (.text "y")) := by
  intro bottom outside inside blank source
  obtain ⟨-, innermost, -, plainly, missing, path, -⟩ := nested_environment bottom
  have plain : '.' ∉ "row".toList := by decide
  have free : ∀ t ∈ [blank], t.value? "row" = none := by
    rw [List.forall_mem_singleton]
    rfl
  have bound : inside.value? "row" = some inside.element := rfl
  have gone : Value.lookup? (Text.steps "id") inside.element = none := by decide +kernel
  have none := missing [blank] inside [outside] "row" inside.element "id" plain free bound gone
  have row := innermost [blank] inside [outside] "row" inside.element free bound
  have found := (plainly ([blank] ++ inside :: [outside]) "row" plain).2 "1"
  rw [row] at found
  exact ⟨plain, free, bound, gone, none, path _ "row" "1", found⟩

end Source
end SqlTemplate
