import SqlTemplate.Error
import SqlTemplate.Value.Entries
import SqlTemplate.Value.Json

/-!
Where parameters come from. A source answers each name with a value, with nothing, or with an
error; a loop binds two more names over the source around it.
-/

namespace SqlTemplate

/-- Nothing found is an answer of its own, apart from a null and from a failed look-up. -/
abbrev Source := String → Except Error (Option Value)

namespace Source

def find? (bindings : List (String × Value)) (name : String) : Option Value := do
  let (head, path) := Text.segments name
  Value.lookup? path (← bindings.lookup head)

def ofBindings (bindings : List (String × Value)) : Source := fun name => .ok (find? bindings name)

/-- Bindings in front of a source. Where one of them has the first segment of a name, what it
holds decides, found or not. -/
def bind (bindings : List (String × Value)) (outer : Source) : Source := fun name =>
  let (head, path) := Text.segments name
  match bindings.lookup head with
  | some v => .ok (Value.lookup? path v)
  | none => outer name

theorem bind_of_lookup {bindings : List (String × Value)} {outer : Source} {name : String}
    {v : Value} (h : bindings.lookup (Text.headSegment name) = some v) :
    Source.bind bindings outer name = .ok (Value.lookup? (Text.segments name).2 v) := by
  simp only [bind]
  rw [Text.headSegment] at h
  rw [h]

theorem bind_of_lookup_none {bindings : List (String × Value)} {outer : Source} {name : String}
    (h : bindings.lookup (Text.headSegment name) = none) :
    Source.bind bindings outer name = outer name := by
  simp only [bind]
  rw [Text.headSegment] at h
  rw [h]

end Source

structure Parameters where
  entries : List (String × Value) := []
  deriving Inhabited

namespace Parameters

def insert (p : Parameters) (name : String) (v : Value) : Parameters :=
  ⟨Entries.insert name v p.entries⟩

def ofList (pairs : List (String × Value)) : Parameters := ⟨Entries.ofList pairs⟩

def ofJson? (json : Json) : Except Error Parameters :=
  match Value.ofJson json with
  | .map entries => .ok ⟨entries⟩
  | v => .error (.evaluation (.parametersNotObject v.kind))

def source (p : Parameters) : Source := Source.ofBindings p.entries

end Parameters
end SqlTemplate
