import SqlTemplate.Condition.Function
import SqlTemplate.Proofs.Composition
import SqlTemplate.Proofs.Environment
import SqlTemplate.Proofs.Markers
import SqlTemplate.Value.Elements

namespace SqlTemplate

namespace Value

theorem isSome_elements?_iff (v : Value) : v.elements?.isSome = true
    ↔ v.resolved.kind = .list ∨ v.resolved.kind = .map ∨ v.resolved.kind = .bytea := by
  rw [elements?]
  cases v.resolved <;> simp [kind]

variable {v key element : Value} {elements : List (Value × Value)}

theorem positions_of_elements? (h : v.elements? = some elements)
    (unnamed : v.resolved.kind ≠ .map) :
    elements.map Prod.fst = (List.range elements.length).map fun i => .integer i := by
  rcases elements?_cases h with ⟨items, -, rfl⟩ | ⟨bs, -, rfl⟩ | ⟨entries, shape, -⟩
  · rw [map_fst_numbered, length_numbered, List.range_eq_range']
  · rw [map_fst_numbered, length_numbered, List.range_eq_range']
  · exact absurd (congrArg kind shape) unnamed

theorem names_of_elements? (h : v.elements? = some elements)
    (ordered : ∀ entries, v.resolved = .map entries → Entries.Sorted entries)
    (named : v.resolved.kind = .map) :
    ∃ names : List String, elements.map Prod.fst = names.map .text ∧ names.Pairwise (· < ·) := by
  rcases elements?_cases h with ⟨items, shape, -⟩ | ⟨bs, shape, -⟩ | ⟨entries, shape, rfl⟩
  · rw [shape] at named
    cases named
  · rw [shape] at named
    cases named
  · refine ⟨entries.map Prod.fst, ?_, List.pairwise_map.2 (ordered entries shape)⟩
    rw [List.map_map, List.map_map]
    rfl

theorem lookup?_of_elements? (h : v.elements? = some elements)
    (ordered : ∀ entries, v.resolved = .map entries → Entries.Sorted entries)
    (unbytes : v.resolved.kind ≠ .bytea) (found : (key, element) ∈ elements) :
    lookup? [key.toText] v = some element := by
  have child : v.resolved.child? key.toText = some element := by
    rcases elements?_cases h with ⟨items, shape, rfl⟩ | ⟨bs, shape, -⟩ | ⟨entries, shape, rfl⟩
    · obtain ⟨i, rfl, item⟩ := exists_of_mem_numbered found
      rw [shape, ← item, Nat.zero_add]
      exact child?_list_toString items i
    · exact absurd (congrArg kind shape) unbytes
    · obtain ⟨⟨name, value⟩, entry, same⟩ := List.mem_map.1 found
      cases same
      rw [shape]
      exact Entries.lookup_of_mem (ordered entries shape) entry
  rw [lookup?, ← child?_resolved, child]
  rfl

end Value

namespace Function

variable {v : Value} {elements : List (Value × Value)}

theorem sizeOfFirst_of_elements? (h : v.elements? = some elements) (name : String)
    (more : List Value) : sizeOfFirst name (v :: more) = .ok elements.length := by
  have size : size name v.resolved = .ok elements.length := by
    rcases Value.elements?_cases h with ⟨items, shape, rfl⟩ | ⟨bs, shape, rfl⟩ | ⟨_, shape, rfl⟩
    · rw [shape, Value.length_numbered]
      rfl
    · rw [shape, Value.length_numbered, List.length_map]
      rfl
    · rw [shape, List.length_map]
      rfl
  exact size

theorem len_of_elements? (h : v.elements? = some elements) (more : List Value) :
    len (v :: more) = .ok (.integer elements.length) := by
  rw [len, sizeOfFirst_of_elements? h]
  rfl

theorem isEmpty_of_elements? (h : v.elements? = some elements) (more : List Value) :
    isEmpty (v :: more) = .ok (.boolean (elements.length == 0)) := by
  rw [isEmpty, sizeOfFirst_of_elements? h]
  rfl

theorem isNotEmpty_of_elements? (h : v.elements? = some elements) (more : List Value) :
    isNotEmpty (v :: more) = .ok (.boolean !(elements.length == 0)) := by
  rw [isNotEmpty, sizeOfFirst_of_elements? h]
  rfl

end Function

theorem Printer.absorb_of_finish {p q : Printer} {sql : String} {values : List Value}
    (h : q.finish = .ok (sql, values)) : p.absorb q = (p.write sql).push values := by
  rw [finish] at h
  cases failed : q.error? with
  | some e =>
    rw [failed] at h
    cases h
  | none =>
    rw [failed] at h
    cases h
    rw [absorb, failed]

theorem intercalate_cons (separator t : String) (ts : List String) :
    separator.intercalate (t :: ts) = t ++ String.join (ts.map (separator ++ ·)) := by
  induction ts generalizing t with
  | nil => simp
  | cons u ts ih =>
    rw [String.intercalate_cons_cons, ih, List.map_cons, String.join_cons, String.append_assoc,
      String.append_assoc]

namespace Node

variable {ctx : Context} {loop : Loop} {body : List Node} {p : Printer} {start : Nat}
  {elements : List (Value × Value)} {rounds : List (String × List Value)}

/-- What is rendered for each element of a loop, from a first number on. The numbers go on behind
the values of the rounds before. -/
inductive Rounds (ctx : Context) (loop : Loop) (body : List Node) :
    Nat → List (Value × Value) → List (String × List Value) → Prop
  | nil (start : Nat) : Rounds ctx loop body start [] []
  | cons {start : Nat} {key element : Value} {sql : String} {values : List Value}
      {rest : List (Value × Value)} {rounds : List (String × List Value)} :
      renderFrom { ctx with source := loopSource ctx.source loop key element } start body
        = .ok (sql, values) →
      Rounds ctx loop body (start + values.length) rest rounds →
      Rounds ctx loop body start ((key, element) :: rest) ((sql, values) :: rounds)

theorem Rounds.length_eq (h : Rounds ctx loop body start elements rounds) :
    rounds.length = elements.length := by
  induction h with
  | nil => rfl
  | cons _ _ ih => rw [List.length_cons, List.length_cons, ih]

theorem exists_renderFrom {nodes : List Node} {r : String × List Value}
    (h : render ctx nodes = .ok r) (start : Nat) : ∃ r, renderFrom ctx start nodes = .ok r := by
  rw [render, finish_writeAll] at h
  cases ok : (draftAll ctx.source nodes).error? with
  | some e =>
    rw [Draft.finish_print_of_some ok] at h
    cases h
  | none =>
    rw [renderFrom, finish_writeAll, Draft.finish_print_of_none ok]
    exact ⟨_, rfl⟩

theorem exists_rounds (sound : ∀ key element, (key, element) ∈ elements →
      ∃ r, render { ctx with source := loopSource ctx.source loop key element } body = .ok r)
    (start : Nat) : ∃ rounds, Rounds ctx loop body start elements rounds := by
  induction elements generalizing start with
  | nil => exact ⟨[], .nil start⟩
  | cons pair rest ih =>
    obtain ⟨key, element⟩ := pair
    obtain ⟨r, rendered⟩ := sound key element List.mem_cons_self
    obtain ⟨⟨sql, values⟩, round⟩ := exists_renderFrom rendered start
    have others := fun key element found => sound key element (List.mem_cons_of_mem _ found)
    obtain ⟨rounds, next⟩ := ih others (start + values.length)
    exact ⟨(sql, values) :: rounds, .cons round next⟩

theorem absorb_round {inner : Context} {sql : String} {values : List Value}
    (h : renderFrom inner p.index body = .ok (sql, values)) :
    p.absorb (writeAll inner body p.child) = (p.write sql).push values :=
  Printer.absorb_of_finish h

theorem writeElements_of_rounds (h : Rounds ctx loop body start elements rounds)
    (index : p.index = start) (ok : p.isFailed = false) :
    writeElements ctx loop (fun inner => writeAll inner body) false elements p
      = { p with
          text := p.text
            ++ (String.join (rounds.map fun r => loop.separator ++ r.1) ++ loop.closing)
          values := p.values ++ rounds.flatMap Prod.snd } := by
  induction h generalizing p with
  | nil => simp [writeElements, Printer.write]
  | @cons start key element sql values rest rounds round _ ih =>
    have separated : (p.write loop.separator).index = start := index
    rw [← separated] at round
    simp only [writeElements, Bool.false_eq_true, if_false, absorb_round round]
    rw [if_neg (by simpa using ok), ih (by simp [index]) (by simpa using ok)]
    simp [Printer.write, Printer.push, String.append_assoc]

theorem loopElements_of_elements? {source : Source} {v : Value}
    (found : source loop.collection = .ok (some v)) (shape : v.elements? = some elements)
    (shown : String) : loopElements source loop shown = .ok elements := by
  have present : v.resolved.isNil = false := by
    rcases Value.elements?_cases shape with ⟨_, same, -⟩ | ⟨_, same, -⟩ | ⟨_, same, -⟩ <;>
      rw [same] <;> rfl
  rw [loopElements, found]
  simp only [present, shape, Bool.false_eq_true, if_false]

theorem write_forEach_of_rounds {v : Value} (h : Rounds ctx loop body p.index elements rounds)
    (filled : elements ≠ []) (found : ctx.source loop.collection = .ok (some v))
    (shape : v.elements? = some elements) (ok : p.isFailed = false) :
    write ctx (.forEach loop body) p = { p with
      text := p.text ++ (loop.opening
        ++ (loop.separator.intercalate (rounds.map Prod.fst) ++ loop.closing))
      values := p.values ++ rounds.flatMap Prod.snd } := by
  rw [write, writeLoop, loopElements_of_elements? found shape]
  cases h with
  | nil => exact absurd rfl filled
  | @cons _ key element sql values rest rounds round next =>
    -- The opening takes no number: the first round begins where the loop does.
    have opened : (p.write loop.opening).index = p.index := rfl
    rw [← opened] at round
    simp only [writeElements, if_true, absorb_round round]
    rw [if_neg (by simpa using ok), writeElements_of_rounds next (by simp) (by simpa using ok)]
    simp [Printer.write, Printer.push, intercalate_cons, String.append_assoc, Function.comp_def]

theorem write_forEach_of_empty {v : Value} (found : ctx.source loop.collection = .ok (some v))
    (shape : v.elements? = some []) : write ctx (.forEach loop body) p = p := by
  rw [write, writeLoop, loopElements_of_elements? found shape]

end Node

/-- A value has elements if it is a list, a map or bytes, under whatever layers, and then all views
of it agree on how many they are: the iterator at every step, the functions of tests, and a loop,
which renders its body once for each. The keys are the positions, or in a map the ascending names,
and lead to the elements. -/
theorem Value.views_agree {v : Value}
    (ordered : ∀ entries, v.resolved = .map entries → Entries.Sorted entries) :
    (v.elements?.isSome = true
      ↔ v.resolved.kind = .list ∨ v.resolved.kind = .map ∨ v.resolved.kind = .bytea)
    ∧ ∀ elements, v.elements? = some elements →
      (∃ e, Elements.ofValue? v = some e ∧ e.toList = elements
        ∧ ∀ j, (e.advance j).length = elements.length - j
          ∧ (e.advance j).toList = elements.drop j
          ∧ ((e.advance j).isEmpty = true ↔ (e.advance j).next? = none))
      ∧ (∀ more, Function.len (v :: more) = .ok (.integer elements.length)
        ∧ Function.isEmpty (v :: more) = .ok (.boolean (elements.length == 0))
        ∧ Function.isNotEmpty (v :: more) = .ok (.boolean !(elements.length == 0)))
      ∧ (v.resolved.kind ≠ .map →
        elements.map Prod.fst = (List.range elements.length).map fun i => .integer i)
      ∧ (v.resolved.kind = .map → ∃ names : List String,
        elements.map Prod.fst = names.map .text ∧ names.Pairwise (· < ·))
      ∧ (v.resolved.kind ≠ .bytea → ∀ key element, (key, element) ∈ elements →
        lookup? [key.toText] v = some element)
      ∧ ∀ (ctx : Context) (loop : Loop) (body : List Node) (p : Printer), p.isFailed = false →
        ctx.source loop.collection = .ok (some v) →
        (∀ key element, (key, element) ∈ elements → ∃ r, Node.render
          { ctx with source := Node.loopSource ctx.source loop key element } body = .ok r) →
        ∃ rounds, Node.Rounds ctx loop body p.index elements rounds
          ∧ rounds.length = elements.length
          ∧ (Function.isEmpty [v] = .ok (.boolean true) →
            Node.write ctx (.forEach loop body) p = p)
          ∧ (Function.isEmpty [v] = .ok (.boolean false) →
            Node.write ctx (.forEach loop body) p = { p with
              text := p.text ++ (loop.opening
                ++ (loop.separator.intercalate (rounds.map Prod.fst) ++ loop.closing))
              values := p.values ++ rounds.flatMap Prod.snd }) := by
  refine ⟨isSome_elements?_iff v, ?_⟩
  intro elements shape
  have counted := Function.isEmpty_of_elements? shape []
  refine ⟨?_, ?_, positions_of_elements? shape, names_of_elements? shape ordered, ?_, ?_⟩
  · rw [elements?_eq] at shape
    obtain ⟨e, start, rfl⟩ := Option.map_eq_some_iff.1 shape
    refine ⟨e, start, rfl, ?_⟩
    intro j
    refine ⟨?_, e.toList_advance j, Elements.isEmpty_iff⟩
    rw [Elements.length_advance, Elements.length_toList]
  · intro more
    exact ⟨Function.len_of_elements? shape more, Function.isEmpty_of_elements? shape more,
      Function.isNotEmpty_of_elements? shape more⟩
  · intro unbytes key element found
    exact lookup?_of_elements? shape ordered unbytes found
  · intro ctx loop body p ok found sound
    obtain ⟨rounds, each⟩ := Node.exists_rounds sound p.index
    refine ⟨rounds, each, each.length_eq, ?_, ?_⟩
    · intro empty
      cases elements with
      | nil => exact Node.write_forEach_of_empty found shape
      | cons pair rest => cases counted.symm.trans empty
    · intro filled
      have some : elements ≠ [] := by
        rintro rfl
        cases counted.symm.trans filled
      exact Node.write_forEach_of_rounds each some found shape ok

theorem Value.views_agree_map :
    let entries : List (String × Value) := [("a", .integer 1), ("é", .text "x")]
    let v : Value := .present (.present (.map entries))
    let elements : List (Value × Value) := [(.text "a", .integer 1), (.text "é", .text "x")]
    let ctx : Context := ⟨.postgres, .ofBindings [("columns", v)]⟩
    let loop : Loop := ⟨"columns", "value", "name", "SET ", ", ", ";"⟩
    let body : List Node := [.text ⟨"", [(⟨"name"⟩, " = "), (⟨"value"⟩, "")]⟩]
    let p : Printer := Printer.start 2
    Entries.Sorted entries ∧ v.elements? = some elements
      ∧ Function.len [v] = .ok (.integer 2) ∧ lookup? ["é"] v = some (.text "x")
      ∧ ∃ rounds, Node.Rounds ctx loop body 2 elements rounds ∧ rounds.length = 2
        ∧ (Node.write ctx (.forEach loop body) p).text
          = "SET " ++ (", ".intercalate (rounds.map Prod.fst) ++ ";")
        ∧ (Node.write ctx (.forEach loop body) p).text = "SET $3 = $4, $5 = $6;" := by
  intro entries v elements ctx loop body p
  have sorted : Entries.Sorted entries := List.pairwise_pair.2 (by decide +kernel)
  have ordered : ∀ found, v.resolved = .map found → Entries.Sorted found := by
    intro found same
    cases same
    exact sorted
  have sound : ∀ key element, (key, element) ∈ elements → ∃ r, Node.render
      { ctx with source := Node.loopSource ctx.source loop key element } body = .ok r := by
    intro key element found
    simp only [elements, List.mem_cons, List.not_mem_nil, or_false, Prod.mk.injEq] at found
    rcases found with ⟨rfl, rfl⟩ | ⟨rfl, rfl⟩ <;> exact ⟨_, rfl⟩
  have found : ctx.source loop.collection = .ok (some v) := by
    have plain : '.' ∉ "columns".toList := by decide
    have answer : Source.nested [("columns", v)] [] "columns" = .ok (some v) := by
      rw [Source.nested_of_plain plain]
      simp [Source.binding?]
    exact answer
  obtain ⟨-, views⟩ := views_agree ordered
  obtain ⟨-, counts, -, -, paths, loops⟩ := views elements rfl
  obtain ⟨rounds, each, length, -, written⟩ := loops ctx loop body p rfl found sound
  have whole := written (counts []).2.1
  refine ⟨sorted, rfl, (counts []).1, ?_, rounds, each, length, ?_, by decide +kernel⟩
  · exact paths nofun (.text "é") (.text "x") (by simp [elements])
  · rw [whole]
    rfl

end SqlTemplate
