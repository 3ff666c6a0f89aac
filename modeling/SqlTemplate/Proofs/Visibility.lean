import SqlTemplate.Proofs.Environment

namespace SqlTemplate

theorem Text.dot_notMem_headSegment (name : String) : '.' ∉ (headSegment name).toList := by
  rw [headSegment_eq, String.toList_ofList]
  intro found
  simpa using List.all_eq_true.1 List.all_takeWhile _ found

namespace Value

theorem lookup_ofJsonMembers (members : List (String × Json)) (name : String) :
    (ofJsonMembers members).lookup name = (members.lookup name).map ofJson := by
  induction members with
  | nil => rfl
  | cons member members ih =>
    obtain ⟨key, value⟩ := member
    rw [ofJsonMembers, List.lookup_cons, List.lookup_cons, ih]
    cases name == key <;> rfl

end Value

theorem Json.lookup_filter_of_plain {name : String} (plain : '.' ∉ name.toList)
    (members : List (String × Json)) :
    (members.filter fun m => '.' ∉ m.1.toList).lookup name = members.lookup name := by
  induction members with
  | nil => rfl
  | cons member members ih =>
    obtain ⟨key, value⟩ := member
    by_cases kept : '.' ∉ key.toList
    · rw [List.filter_cons_of_pos (by simpa using kept), List.lookup_cons, List.lookup_cons, ih]
    · have other : name ≠ key := by
        rintro rfl
        exact kept plain
      rw [List.filter_cons_of_neg (by simpa using kept), ih, List.lookup_cons,
        beq_false_of_ne other]

namespace Source

variable {bindings others : List (String × Value)} {name : String} {v : Value}

theorem ofBindings_of_plain (plain : '.' ∉ name.toList) :
    ofBindings bindings name = .ok (bindings.lookup name) := by
  have found : nested bindings [] name = .ok (binding? bindings [] name) := nested_of_plain plain
  exact found

theorem ofBindings_congr
    (same : ∀ name, '.' ∉ name.toList → bindings.lookup name = others.lookup name) :
    ofBindings bindings = ofBindings others := by
  funext name
  have head := same _ (Text.dot_notMem_headSegment name)
  rw [Text.headSegment] at head
  simp only [ofBindings, find?, head]

theorem bind_self {source : Source} (plain : '.' ∉ name.toList) :
    source.bind ((name, v) :: bindings) name = .ok (some v) := by
  have segments := Text.segments_of_plain plain
  have here : ((name, v) :: bindings).lookup (Text.headSegment name) = some v := by
    simp [Text.headSegment, segments]
  rw [bind_of_lookup here, segments, Value.lookup?_nil]

theorem bind_of_dotted {source : Source} (dotted : '.' ∈ name.toList) :
    source.bind ((name, v) :: bindings) = source.bind bindings := by
  funext other
  have apart : (Text.segments other).1 ≠ name := by
    rintro rfl
    exact Text.dot_notMem_headSegment other dotted
  rw [bind, bind]
  have skipped : ((name, v) :: bindings).lookup (Text.segments other).1
      = bindings.lookup (Text.segments other).1 := by
    rw [List.lookup_cons, beq_false_of_ne apart]
  simp only [skipped]

end Source

namespace Parameters

variable {name : String}

theorem source_insert_self (plain : '.' ∉ name.toList) (p : Parameters) (v : Value) :
    (p.insert name v).source name = .ok (some v) := by
  rw [source, Source.ofBindings_of_plain plain, insert, Entries.lookup_insert_self]

theorem source_insert_of_dotted (dotted : '.' ∈ name.toList) (p : Parameters) (v : Value) :
    (p.insert name v).source = p.source := by
  refine Source.ofBindings_congr fun other plain => Entries.lookup_insert_of_ne ?_ v p.entries
  rintro rfl
  exact plain dotted

theorem ofJson?_object (members : List (String × Json)) :
    ofJson? (.object members) = .ok ⟨Value.ofJsonMembers members⟩ := by
  rw [ofJson?, Value.ofJson]

end Parameters

namespace Source

/-- A name without dots finds what is bound to it: the value inserted under it, the member of the
object that the parameters are made of, the element that a loop is at. What is bound to a name with
a dot is hidden: every name comes to what it comes to without the binding. -/
theorem binding_visible :
    (∀ (p : Parameters) name v, '.' ∉ name.toList → (p.insert name v).source name = .ok (some v))
    ∧ (∀ members, ∃ p, Parameters.ofJson? (.object members) = .ok p
      ∧ ∀ name j, '.' ∉ name.toList → members.lookup name = some j →
        p.source name = .ok (some (.ofJson j)))
    ∧ (∀ (source : Source) (loop : Loop) key element, '.' ∉ loop.item.toList →
      Node.loopSource source loop key element loop.item = .ok (some element))
    ∧ (∀ (p : Parameters) name v, '.' ∈ name.toList → (p.insert name v).source = p.source)
    ∧ (∀ members, ∃ p q, Parameters.ofJson? (.object members) = .ok p
      ∧ Parameters.ofJson? (.object (members.filter fun m => '.' ∉ m.1.toList)) = .ok q
      ∧ p.source = q.source)
    ∧ ∀ (source : Source) (loop : Loop) key element, '.' ∈ loop.item.toList →
      Node.loopSource source loop key element = source.bind [(loop.index, key)] := by
  refine ⟨?_, ?_, ?_, ?_, ?_, ?_⟩
  · intro p name v plain
    exact p.source_insert_self plain v
  · intro members
    refine ⟨_, Parameters.ofJson?_object members, ?_⟩
    intro name j plain found
    rw [Parameters.source, ofBindings_of_plain plain, Value.lookup_ofJsonMembers, found]
    rfl
  · intro source loop key element plain
    exact bind_self plain
  · intro p name v dotted
    exact p.source_insert_of_dotted dotted v
  · intro members
    refine ⟨_, _, Parameters.ofJson?_object _, Parameters.ofJson?_object _, ?_⟩
    refine ofBindings_congr fun name plain => ?_
    rw [Value.lookup_ofJsonMembers, Value.lookup_ofJsonMembers, Json.lookup_filter_of_plain plain]
  · intro source loop key element dotted
    exact bind_of_dotted dotted

theorem binding_visible_user :
    let user : Value := .map [("id", .integer 9)]
    let p : Parameters := ⟨[("page", .integer 2), ("user", .text "outer")]⟩
    let loop : Loop := ⟨"users", "user", "user", "", ", ", ""⟩
    let members : List (String × Json) := [("a.b", .integer 1), ("page", .integer 3)]
    '.' ∉ "user".toList ∧ '.' ∉ "page".toList ∧ '.' ∈ "user.id".toList
      ∧ members.lookup "page" = some (.integer 3)
      ∧ (p.insert "user" user).source "user" = .ok (some user)
      ∧ (∃ q, Parameters.ofJson? (.object members) = .ok q
        ∧ q.source "page" = .ok (some (.integer 3)))
      ∧ Node.loopSource p.source loop (.integer 0) user "user" = .ok (some user)
      ∧ (p.insert "user.id" .null).source = p.source := by
  intro user p loop members
  obtain ⟨inserted, object, looped, hidden, -, -⟩ := binding_visible
  have plain : '.' ∉ "user".toList := by decide
  have page : '.' ∉ "page".toList := by decide
  have dotted : '.' ∈ "user.id".toList := by decide
  have member : members.lookup "page" = some (.integer 3) := rfl
  obtain ⟨q, made, found⟩ := object members
  exact ⟨plain, page, dotted, member, inserted p "user" user plain,
    ⟨q, made, found "page" (.integer 3) page member⟩, looped p.source loop (.integer 0) user plain,
    hidden p "user.id" .null dotted⟩

/-- The name `a.b` asks for the member `b` of what is bound to `a`, which is nothing here. -/
theorem binding_hidden_dotted :
    let loop : Loop := ⟨"xs", "a.b", "i", "", "", ""⟩
    let body : List Node := [.text ⟨"", [(⟨"a.b"⟩, "")]⟩]
    (({} : Parameters).insert "a.b" (.integer 1)).source "a.b" = .ok none
      ∧ Parameters.ofJson? (.object [("a.b", .integer 1)]) = .ok ⟨[("a.b", .integer 1)]⟩
      ∧ (⟨[("a.b", .integer 1)]⟩ : Parameters).source "a.b" = .ok none
      ∧ Template.loopNode loop body = .ok (.forEach loop body)
      ∧ Node.loopSource (.ofBindings []) loop (.integer 0) (.integer 1) "a.b" = .ok none :=
  ⟨rfl, rfl, rfl, rfl, rfl⟩

end Source
end SqlTemplate
