import SqlTemplate.Proofs.Markers
import SqlTemplate.Proofs.Visibility
import SqlTemplate.Statement
import SqlTemplate.Value.Elements

namespace SqlTemplate

namespace Json

mutual

/-- Whether all whole numbers in the data are within 64 bits and all others finite. -/
def isRanged : Json → Bool
  | .integer n => isInteger64 n
  | .real x => x.isFinite
  | .array items => itemsAreRanged items
  | .object members => membersAreRanged members
  | .null | .boolean _ | .string _ => true

def itemsAreRanged : List Json → Bool
  | [] => true
  | item :: rest => item.isRanged && itemsAreRanged rest

def membersAreRanged : List (String × Json) → Bool
  | [] => true
  | (_, value) :: rest => value.isRanged && membersAreRanged rest

end

theorem itemsAreRanged_iff {items : List Json} :
    itemsAreRanged items = true ↔ ∀ item ∈ items, item.isRanged = true := by
  induction items with
  | nil => simp [itemsAreRanged]
  | cons item rest ih => simp [itemsAreRanged, ih]

theorem membersAreRanged_iff {members : List (String × Json)} :
    membersAreRanged members = true ↔ ∀ member ∈ members, member.2.isRanged = true := by
  induction members with
  | nil => simp [membersAreRanged]
  | cons member rest ih => simp [membersAreRanged, ih]

def child? (segment : String) : Json → Option Json
  | .object members => members.lookup segment
  | .array items => (Value.position? segment).bind (items[·]?)
  | _ => none

def part? : List String → Json → Option Json
  | [], j => some j
  | segment :: rest, j => (j.child? segment).bind (part? rest)

def parts? : Json → Option (List (Json × Json))
  | .array items => some (items.zipIdx.map fun (item, i) => (.integer i, item))
  | .object members => some (members.map fun (name, j) => (.string name, j))
  | _ => none

variable {j part : Json}

theorem isRanged_of_lookup {members : List (String × Json)} {name : String}
    (h : membersAreRanged members = true) (found : members.lookup name = some j) :
    j.isRanged = true := by
  obtain ⟨before, behind, rfl, -⟩ := List.lookup_eq_some_iff.1 found
  exact membersAreRanged_iff.1 h (name, j) (List.mem_append_right _ List.mem_cons_self)

theorem isRanged_of_child? {segment : String} (h : j.isRanged = true)
    (found : j.child? segment = some part) : part.isRanged = true := by
  cases j with
  | object members => exact isRanged_of_lookup h found
  | array items =>
    obtain ⟨i, -, item⟩ := Option.bind_eq_some_iff.1 found
    exact itemsAreRanged_iff.1 h part (List.mem_of_getElem? item)
  | null | boolean | integer | real | string => cases found

theorem isRanged_of_part? {path : List String} (h : j.isRanged = true)
    (found : j.part? path = some part) : part.isRanged = true := by
  induction path generalizing j with
  | nil =>
    cases found
    exact h
  | cons segment rest ih =>
    obtain ⟨child, step, found⟩ := Option.bind_eq_some_iff.1 found
    exact ih (isRanged_of_child? h step) found

abbrev Names := String → Option Json

/-- The first segment of a name is the name of a member, and the others are a path from there. -/
def Names.ofMembers (members : List (String × Json)) : Names := fun name =>
  (members.lookup (Text.headSegment name)).bind (part? (Text.segments name).2)

theorem isRanged_of_ofMembers {members : List (String × Json)} {name : String}
    (h : membersAreRanged members = true) (found : Names.ofMembers members name = some part) :
    part.isRanged = true := by
  obtain ⟨j, member, path⟩ := Option.bind_eq_some_iff.1 found
  exact isRanged_of_part? (isRanged_of_lookup h member) path

def Names.bind (bindings : List (String × Json)) (outer : Names) : Names := fun name =>
  match bindings.lookup (Text.headSegment name) with
  | some j => j.part? (Text.segments name).2
  | none => outer name

end Json

namespace Value

theorem ofJsonItems_eq (items : List Json) : ofJsonItems items = items.map ofJson := by
  induction items with
  | nil => rfl
  | cons item rest ih => rw [ofJsonItems, ih, List.map_cons]

theorem ofJsonMembers_eq (members : List (String × Json)) :
    ofJsonMembers members = members.map fun (name, j) => (name, ofJson j) := by
  induction members with
  | nil => rfl
  | cons member rest ih => rw [ofJsonMembers, ih, List.map_cons]

mutual

theorem toJson_ofJson {j : Json} (h : j.isRanged = true) : (ofJson j).toJson = j := by
  cases j with
  | null | boolean | string => rfl
  | integer n =>
    rw [Json.isRanged] at h
    rw [ofJson, if_pos h, toJson]
  | real x =>
    rw [Json.isRanged] at h
    rw [ofJson, toJson, if_pos h]
  | array items =>
    rw [Json.isRanged] at h
    rw [ofJson, toJson, toJsonItems_ofJsonItems h]
  | object members =>
    rw [Json.isRanged] at h
    rw [ofJson, toJson, toJsonMembers_ofJsonMembers h]

theorem toJsonItems_ofJsonItems {items : List Json} (h : Json.itemsAreRanged items = true) :
    toJsonItems (ofJsonItems items) = items := by
  cases items with
  | nil => rfl
  | cons item rest =>
    obtain ⟨first, others⟩ := Bool.and_eq_true_iff.1 h
    rw [ofJsonItems, toJsonItems, toJson_ofJson first, toJsonItems_ofJsonItems others]

theorem toJsonMembers_ofJsonMembers {members : List (String × Json)}
    (h : Json.membersAreRanged members = true) :
    toJsonMembers (ofJsonMembers members) = members := by
  cases members with
  | nil => rfl
  | cons member rest =>
    obtain ⟨name, value⟩ := member
    obtain ⟨first, others⟩ := Bool.and_eq_true_iff.1 h
    rw [ofJsonMembers, toJsonMembers, toJson_ofJson first, toJsonMembers_ofJsonMembers others]

end

theorem resolved_ofJson (j : Json) : (ofJson j).resolved = ofJson j := by
  cases j with
  | integer n =>
    rw [ofJson]
    split <;> rfl
  | null | boolean | real | string | array | object => rfl

theorem child?_ofJson (j : Json) (segment : String) :
    (ofJson j).child? segment = (j.child? segment).map ofJson := by
  cases j with
  | null | boolean | real | string => rfl
  | integer n =>
    rw [ofJson]
    split <;> rfl
  | array items =>
    rw [ofJson, child?, ofJsonItems_eq, Json.child?]
    cases position? segment with
    | none => rfl
    | some i => exact List.getElem?_map
  | object members => exact lookup_ofJsonMembers members segment

theorem lookup?_ofJson (path : List String) (j : Json) :
    lookup? path (ofJson j) = (j.part? path).map ofJson := by
  induction path generalizing j with
  | nil => rfl
  | cons segment rest ih =>
    rw [lookup?, child?_ofJson, Json.part?]
    cases j.child? segment with
    | none => rfl
    | some part => exact ih part

/-- Whether a value stands for data: it is read from it, or is a position that a loop counts. -/
inductive StandsFor : Value → Json → Prop
  | data {j : Json} : j.isRanged = true → StandsFor (ofJson j) j
  | position (n : Nat) : StandsFor (.integer n) (.integer n)

namespace StandsFor

variable {v key element : Value} {j : Json}

theorem toJson_eq (h : v.StandsFor j) : v.toJson = j := by
  cases h with
  | data ranged => exact toJson_ofJson ranged
  | position n => rfl

theorem resolved_eq (h : v.StandsFor j) : v.resolved = v := by
  cases h with
  | data => exact resolved_ofJson j
  | position n => rfl

theorem lookup? (h : v.StandsFor j) (path : List String) :
    Option.Rel StandsFor (Value.lookup? path v) (j.part? path) := by
  cases h with
  | data ranged =>
    rw [lookup?_ofJson]
    cases found : j.part? path with
    | none => exact .none
    | some part => exact .some (.data (Json.isRanged_of_part? ranged found))
  | position n =>
    cases path with
    | nil => exact .some (.position n)
    | cons => exact .none

theorem exists_part {elements : List (Value × Value)} (h : v.StandsFor j)
    (shape : v.elements? = some elements) (found : (key, element) ∈ elements) :
    ∃ parts name part, j.parts? = some parts ∧ (name, part) ∈ parts
      ∧ key.StandsFor name ∧ element.StandsFor part := by
  cases h with
  | position n => cases shape
  | data ranged =>
    cases j with
    | null | boolean | real | string => cases shape
    | integer n =>
      rw [Json.isRanged] at ranged
      rw [ofJson, if_pos ranged] at shape
      cases shape
    | array items =>
      cases shape
      -- The key is the position, which need not be within 64 bits in data of any length.
      obtain ⟨i, rfl, item⟩ := exists_of_mem_numbered found
      rw [ofJsonItems_eq, List.getElem?_map] at item
      obtain ⟨part, there, rfl⟩ := Option.map_eq_some_iff.1 item
      refine ⟨_, .integer i, part, rfl, ?_, ?_, .data ?_⟩
      · exact List.mem_map.2 ⟨(part, i), List.mk_mem_zipIdx_iff_getElem?.2 there, rfl⟩
      · rw [Nat.zero_add]
        exact .position i
      · exact Json.itemsAreRanged_iff.1 ranged part (List.mem_of_getElem? there)
    | object members =>
      cases shape
      rw [ofJsonMembers_eq, List.map_map] at found
      obtain ⟨⟨name, part⟩, there, same⟩ := List.mem_map.1 found
      cases same
      refine ⟨_, .string name, part, rfl, List.mem_map.2 ⟨(name, part), there, rfl⟩, ?_, ?_⟩
      · exact @data (.string name) rfl
      · exact .data (Json.membersAreRanged_iff.1 ranged (name, part) there)

end StandsFor
end Value

namespace Source

variable {source : Source} {names : Json.Names} {members : List (String × Json)}

def StandsFor (source : Source) (names : Json.Names) : Prop :=
  ∀ name, ∃ found?, source name = .ok found? ∧ Option.Rel Value.StandsFor found? (names name)

theorem ofBindings_ofJsonMembers (members : List (String × Json)) (name : String) :
    ofBindings (Value.ofJsonMembers members) name
      = .ok ((Json.Names.ofMembers members name).map Value.ofJson) := by
  have member := Value.lookup_ofJsonMembers members (Text.headSegment name)
  rw [Text.headSegment] at member
  rw [ofBindings, find?, Json.Names.ofMembers, Text.headSegment]
  simp only [member]
  cases members.lookup (Text.segments name).1 with
  | none => rfl
  | some j => exact congrArg Except.ok (Value.lookup?_ofJson _ j)

theorem standsFor_ofMembers (ranged : Json.membersAreRanged members = true) :
    StandsFor (ofBindings (Value.ofJsonMembers members)) (.ofMembers members) := by
  intro name
  refine ⟨_, ofBindings_ofJsonMembers members name, ?_⟩
  cases found : Json.Names.ofMembers members name with
  | none => exact .none
  | some part => exact .some (.data (Json.isRanged_of_ofMembers ranged found))

theorem StandsFor.exists_of_found (h : source.StandsFor names) {name : String} {v : Value}
    (found : source name = .ok (some v)) : ∃ j, names name = some j ∧ v.StandsFor j := by
  obtain ⟨found?, same, stands⟩ := h name
  cases found.symm.trans same
  cases there : names name with
  | none =>
    rw [there] at stands
    cases stands
  | some j =>
    rw [there] at stands
    cases stands with
    | some stands => exact ⟨j, rfl, stands⟩

theorem rel_lookup {bindings : List (String × Value)} {parts : List (String × Json)}
    (same : List.Forall₂ (fun b part => b.1 = part.1 ∧ b.2.StandsFor part.2) bindings parts)
    (name : String) : Option.Rel Value.StandsFor (bindings.lookup name) (parts.lookup name) := by
  induction same with
  | nil => exact .none
  | cons pair _ ih =>
    rw [List.lookup_cons, List.lookup_cons, pair.1]
    split
    · exact .some pair.2
    · exact ih

theorem StandsFor.bind {bindings : List (String × Value)} {parts : List (String × Json)}
    (h : source.StandsFor names)
    (same : List.Forall₂ (fun b part => b.1 = part.1 ∧ b.2.StandsFor part.2) bindings parts) :
    (source.bind bindings).StandsFor (names.bind parts) := by
  intro name
  have bound := rel_lookup same (Text.headSegment name)
  rw [Json.Names.bind]
  cases here : bindings.lookup (Text.headSegment name) with
  | some v =>
    cases there : parts.lookup (Text.headSegment name) with
    | some j =>
      rw [here, there] at bound
      cases bound with
      | some stands => exact ⟨_, bind_of_lookup here, stands.lookup? _⟩
    | none =>
      rw [here, there] at bound
      cases bound
  | none =>
    cases there : parts.lookup (Text.headSegment name) with
    | some j =>
      rw [here, there] at bound
      cases bound
    | none =>
      rw [bind_of_lookup_none here]
      exact h name

/-- The sources that loops make over a document, each with what its names stand for there. -/
inductive Over (members : List (String × Json)) : Source → Json.Names → Prop
  | document : Over members (.ofBindings (Value.ofJsonMembers members)) (.ofMembers members)
  | round {source : Source} {names : Json.Names} {loop : Loop} {collection name part : Json}
      {parts : List (Json × Json)} {key element : Value} :
      Over members source names → names loop.collection = some collection →
      collection.parts? = some parts → (name, part) ∈ parts →
      key.StandsFor name → element.StandsFor part →
      Over members (Node.loopSource source loop key element)
        (names.bind [(loop.item, part), (loop.index, name)])

theorem Over.standsFor (h : Over members source names)
    (ranged : Json.membersAreRanged members = true) : source.StandsFor names := by
  induction h with
  | document => exact standsFor_ofMembers ranged
  | round _ _ _ _ position data ih =>
    exact ih.bind (.cons ⟨rfl, data⟩ (.cons ⟨rfl, position⟩ .nil))

end Source

namespace Node

variable {source : Source} {loop : Loop} {shown : String} {elements : List (Value × Value)}
  {key element : Value}

theorem exists_of_mem_loopElements (h : loopElements source loop shown = .ok elements)
    (found : (key, element) ∈ elements) :
    ∃ v, source loop.collection = .ok (some v) ∧ v.elements? = some elements := by
  rw [loopElements] at h
  split at h
  · cases h
  · cases h
    cases found
  · next v answer =>
    split at h
    · cases h
      cases found
    · split at h
      · cases h
      · next shape =>
        cases h
        exact ⟨v, answer, shape⟩

def KeptInRounds (P : Source → Prop) : Prop :=
  ∀ ⦃source loop shown elements key element⦄, P source →
    loopElements source loop shown = .ok elements → (key, element) ∈ elements →
    P (loopSource source loop key element)

mutual

theorem rendered_keeps {P : Source → Prop} (kept : KeptInRounds P)
    {source : Source} (h : P source) (node : Node) :
    ∀ place ∈ rendered source node, P place.1 := by
  cases node with
  | text t =>
    intro place found
    obtain ⟨m, -, rfl⟩ := List.mem_map.1 found
    exact h
  | conditional test body =>
    rw [rendered]
    split
    · exact renderedAll_keeps kept h body
    · nofun
  | choose branches otherwise =>
    exact renderedBranches_keeps kept h branches
      (renderedAll_keeps kept h otherwise)
  | forEach loop body =>
    rw [rendered]
    cases going : loopElements source loop (Node.describe (.forEach loop body)) with
    | error e => nofun
    | ok elements =>
      intro place found
      obtain ⟨⟨key, element⟩, round, found⟩ := List.mem_flatMap.1 found
      exact renderedAll_keeps kept (kept h going round) body place found
  | whereClause body => exact renderedAll_keeps kept h body
  | setClause body => exact renderedAll_keeps kept h body
  | print print => nofun
  | sequence body => exact renderedAll_keeps kept h body

theorem renderedAll_keeps {P : Source → Prop} (kept : KeptInRounds P)
    {source : Source} (h : P source) (nodes : List Node) :
    ∀ place ∈ renderedAll source nodes, P place.1 := by
  cases nodes with
  | nil => nofun
  | cons node rest =>
    intro place found
    rcases List.mem_append.1 found with found | found
    · exact rendered_keeps kept h node place found
    · exact renderedAll_keeps kept h rest place found

theorem renderedBranches_keeps {P : Source → Prop} (kept : KeptInRounds P)
    {source : Source} (h : P source)
    (branches : List (Condition × List Node)) {otherwise : List (Source × Marker)}
    (last : ∀ place ∈ otherwise, P place.1) :
    ∀ place ∈ renderedBranches source branches otherwise, P place.1 := by
  cases branches with
  | nil => exact last
  | cons branch rest =>
    obtain ⟨test, body⟩ := branch
    rw [renderedBranches]
    split
    · exact renderedAll_keeps kept h body
    · exact renderedBranches_keeps kept h rest last
    · nofun

end

end Node

namespace Source.Over

variable {members : List (String × Json)} {source : Source} {names : Json.Names}

theorem exists_round (h : Over members source names)
    (ranged : Json.membersAreRanged members = true) {loop : Loop} {shown : String}
    {elements : List (Value × Value)} {key element : Value}
    (going : Node.loopElements source loop shown = .ok elements)
    (found : (key, element) ∈ elements) :
    ∃ inner, Over members (Node.loopSource source loop key element) inner := by
  obtain ⟨v, answer, shape⟩ := Node.exists_of_mem_loopElements going found
  obtain ⟨collection, there, stands⟩ := (h.standsFor ranged).exists_of_found answer
  obtain ⟨parts, name, part, all, mem, position, data⟩ := stands.exists_part shape found
  exact ⟨_, .round h there all mem position data⟩

end Source.Over

namespace Node

variable {members : List (String × Json)}

theorem toJson_of_boundAt (ranged : Json.membersAreRanged members = true)
    {place : Source × Marker} (reached : ∃ names, place.1.Over members names) {v : Value}
    (bound : BoundAt place v) : ∃ names, place.1.Over members names
      ∧ names place.2.name = some v.toJson := by
  obtain ⟨names, reached⟩ := reached
  obtain ⟨found, answer, rfl, -⟩ := bound
  obtain ⟨j, there, stands⟩ := (reached.standsFor ranged).exists_of_found answer
  rw [stands.resolved_eq, stands.toJson_eq]
  exact ⟨names, reached, there⟩

theorem forall₂_toJsonItems (ranged : Json.membersAreRanged members = true)
    {places : List (Source × Marker)} {values : List Value}
    (h : List.Forall₂ BoundAt places values)
    (reached : ∀ place ∈ places, ∃ names, place.1.Over members names) :
    List.Forall₂ (fun place j => ∃ names, place.1.Over members names
      ∧ names place.2.name = some j) places (Value.toJsonItems values) := by
  induction h with
  | nil => exact .nil
  | cons bound _ ih =>
    obtain ⟨first, others⟩ := List.forall_mem_cons.1 reached
    exact .cons (toJson_of_boundAt ranged first bound) (ih others)

end Node

theorem MarkedText.bindAll_of_names {members : List (String × Json)} {ms : List Marker}
    {js : List Json} (h : ms.map (fun m => Json.Names.ofMembers members m.name) = js.map some) :
    bindAll (.ofBindings (Value.ofJsonMembers members)) ms = .ok (js.map Value.ofJson) := by
  induction ms generalizing js with
  | nil =>
    rw [List.map_eq_nil_iff.1 h.symm]
    rfl
  | cons m ms ih =>
    cases js with
    | nil => cases h
    | cons j js =>
      obtain ⟨first, rest⟩ := List.cons.inj h
      have named : Json.Names.ofMembers members m.name = some j := first
      have bound : bindMarker (.ofBindings (Value.ofJsonMembers members)) m
          = .ok (Value.ofJson j) := by
        rw [bindMarker, Source.ofBindings_ofJsonMembers, named]
        exact congrArg Except.ok (Value.resolved_ofJson j)
      rw [bindAll, bound, ih rest]
      rfl

theorem Node.render_text {ctx : Context} {t : MarkedText} {values : List Value}
    (h : t.bind ctx.source = .ok values) :
    render ctx [.text t] = .ok (t.withPlaceholders ctx.dialect.placeholder 0, values) := by
  simp [render, writeAll, write, writeText, h, Printer.finish, Printer.start, Printer.write,
    Printer.push, Printer.isFailed, Printer.index]

namespace Statement

variable {members : List (String × Json)}

theorem render_text (ranged : Json.membersAreRanged members = true) (id : String)
    (dialect : Dialect) {t : MarkedText} {js : List Json}
    (named : t.markers.map (fun m => Json.Names.ofMembers members m.name) = js.map some) :
    ∃ r, render ⟨id, [.text t]⟩ dialect (.ofBindings (Value.ofJsonMembers members))
        = .ok r
      ∧ r.toJson = .object [("id", .string id),
        ("sql", .string (t.withPlaceholders dialect.placeholder 0)), ("params", .array js)] := by
  have bound : t.bind (.ofBindings (Value.ofJsonMembers members)) = .ok (js.map Value.ofJson) :=
    MarkedText.bindAll_of_names named
  have parts : Json.itemsAreRanged js = true := by
    refine Json.itemsAreRanged_iff.2 fun j found => ?_
    have leads : some j ∈ t.markers.map fun m => Json.Names.ofMembers members m.name := by
      rw [named]
      exact List.mem_map_of_mem found
    obtain ⟨m, -, part⟩ := List.mem_map.1 leads
    exact Json.isRanged_of_ofMembers ranged part
  have serialized : Value.toJsonItems (js.map Value.ofJson) = js := by
    rw [← Value.ofJsonItems_eq, Value.toJsonItems_ofJsonItems parts]
  refine ⟨⟨id, t.withPlaceholders dialect.placeholder 0, js.map Value.ofJson⟩, ?_, ?_⟩
  · rw [render, Node.render_text bound]
    rfl
  · rw [RenderedSql.toJson, serialized]

theorem toJson_of_render (ranged : Json.membersAreRanged members = true) {s : Statement}
    {dialect : Dialect} {r : RenderedSql}
    (rendered : s.render dialect (.ofBindings (Value.ofJsonMembers members)) = .ok r) :
    ∃ js, r.toJson = .object [("id", .string s.id), ("sql", .string r.sql), ("params", .array js)]
      ∧ List.Forall₂ (fun place j => ∃ names, place.1.Over members names
          ∧ names place.2.name = some j)
        (Node.renderedAll (.ofBindings (Value.ofJsonMembers members)) s.body) js := by
  rw [render] at rendered
  cases nodes : Node.render ⟨dialect, .ofBindings (Value.ofJsonMembers members)⟩
    s.body with
  | error e =>
    rw [nodes] at rendered
    cases rendered
  | ok result =>
    rw [nodes] at rendered
    cases rendered
    have kept : Node.KeptInRounds fun source => ∃ names, source.Over members names :=
      fun _ _ _ _ _ _ ⟨_, reached⟩ going found => reached.exists_round ranged going found
    exact ⟨_, rfl, Node.forall₂_toJsonItems ranged (Node.render_markers_bound nodes).1
      (Node.renderedAll_keeps kept ⟨_, .document⟩ s.body)⟩

end Statement

/-- Data within the ranges of numbers comes back unchanged from values. With an object of such data
as parameters, each name finds the part that it leads to, a text with markers that lead to parts
renders, with these parts as its parameters, and whatever renders, in the rounds of loops too, has
as its parameters the parts that the names of its markers stand for at their places. -/
theorem Json.parts_preserved :
    (∀ j : Json, j.isRanged = true → (Value.ofJson j).toJson = j)
    ∧ ∀ members, isRanged (.object members) = true →
      ∃ params, Parameters.ofJson? (.object members) = .ok params
        ∧ (∀ name, params.source name = .ok ((Names.ofMembers members name).map .ofJson))
        ∧ (∀ id t js dialect,
          t.markers.map (fun m => Names.ofMembers members m.name) = js.map some →
          ∃ r, Statement.render ⟨id, [.text t]⟩ dialect params.source = .ok r
            ∧ r.toJson = .object [("id", .string id),
              ("sql", .string (t.withPlaceholders dialect.placeholder 0)),
              ("params", .array js)])
        ∧ ∀ (s : Statement) dialect r, s.render dialect params.source = .ok r →
          ∃ js, r.toJson = .object [("id", .string s.id), ("sql", .string r.sql),
              ("params", .array js)]
            ∧ List.Forall₂ (fun place j => ∃ names, place.1.Over members names
                ∧ names place.2.name = some j)
              (Node.renderedAll params.source s.body) js := by
  refine ⟨fun j => Value.toJson_ofJson, ?_⟩
  intro members ranged
  refine ⟨_, Parameters.ofJson?_object members, Source.ofBindings_ofJsonMembers members, ?_, ?_⟩
  · intro id t js dialect named
    exact Statement.render_text ranged id dialect named
  · intro s dialect r rendered
    exact Statement.toJson_of_render ranged rendered

theorem Json.parts_preserved_user :
    let user : Json := .object [("id", .integer 9),
      ("tags", .array [.string "a", .real (.ofInt 1), .null])]
    let members : List (String × Json) := [("user", user)]
    let t : MarkedText := ⟨"SELECT ", [(⟨" user.id "⟩, ", "), (⟨"user.tags.1"⟩, "")]⟩
    let tags : Node := .forEach ⟨"user.tags", "tag", "i", "(", ", ", ")"⟩
      [.text ⟨"", [(⟨"tag"⟩, "")]⟩]
    let s : Statement := ⟨"find", [.text t, .text ⟨" IN ", []⟩, tags]⟩
    (Value.ofJson user).toJson = user
      ∧ ∃ params, Parameters.ofJson? (.object members) = .ok params
        ∧ params.source "user" = .ok (some (.ofJson user))
        ∧ (∃ r, Statement.render ⟨"id", [.text t]⟩ .postgres params.source = .ok r
          ∧ r.toJson = .object [("id", .string "id"), ("sql", .string "SELECT $1, $2"),
            ("params", .array [.integer 9, .real (.ofInt 1)])])
        ∧ ∃ r js, s.render .postgres params.source = .ok r
          ∧ r.toJson = .object [("id", .string "find"), ("sql", .string r.sql),
            ("params", .array js)]
          ∧ List.Forall₂ (fun place j => ∃ names, place.1.Over members names
              ∧ names place.2.name = some j)
            (Node.renderedAll params.source s.body) js := by
  intro user members t tags s
  obtain ⟨same, documents⟩ := parts_preserved
  have ranged : isRanged (.object members) = true := by decide +kernel
  obtain ⟨params, read, finds, texts, statements⟩ := documents members ranged
  have named : t.markers.map (fun m => Names.ofMembers members m.name)
      = [.integer 9, .real (.ofInt 1)].map some := by
    rfl
  have known : Names.ofMembers members "user" = some user := by
    rfl
  have text := texts "id" t _ .postgres named
  refine ⟨same user (by decide +kernel), params, read, ?_, text, ?_⟩
  · rw [finds, known]
    rfl
  · cases read
    let source := Parameters.source ⟨Value.ofJsonMembers members⟩
    obtain ⟨r, rendered⟩ : ∃ r, s.render .postgres source = .ok r := ⟨_, rfl⟩
    obtain ⟨js, json, parts⟩ := statements s .postgres r rendered
    exact ⟨r, js, rendered, json, parts⟩

end SqlTemplate
