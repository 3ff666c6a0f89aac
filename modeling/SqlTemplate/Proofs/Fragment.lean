import SqlTemplate.Proofs.Joining
import SqlTemplate.Template.Render

namespace SqlTemplate

namespace MarkedText

variable {source : Source}

theorem exists_bindAll {markers : List Marker}
    (found : ∀ m ∈ markers, ∃ v, source m.name = .ok (some v)) :
    ∃ values, bindAll source markers = .ok values := by
  induction markers with
  | nil => exact ⟨[], rfl⟩
  | cons m markers ih =>
    obtain ⟨⟨v, first⟩, others⟩ := List.forall_mem_cons.1 found
    obtain ⟨values, bound⟩ := ih others
    refine ⟨v.resolved :: values, ?_⟩
    rw [bindAll, bindMarker, first, bound]
    rfl

theorem exists_of_bindAll_append {markers more : List Marker} {values : List Value}
    (bound : bindAll source (markers ++ more) = .ok values) :
    ∃ first second, values = first ++ second ∧ first.length = markers.length
      ∧ bindAll source markers = .ok first ∧ bindAll source more = .ok second := by
  induction markers generalizing values with
  | nil => exact ⟨[], values, rfl, rfl, rfl, bound⟩
  | cons m markers ih =>
    rw [List.cons_append, bindAll] at bound
    cases here : bindMarker source m with
    | error e =>
      rw [here] at bound
      cases bound
    | ok v =>
      cases rest : bindAll source (markers ++ more) with
      | error e =>
        rw [here, rest] at bound
        cases bound
      | ok others =>
        rw [here, rest] at bound
        cases bound
        obtain ⟨first, second, rfl, counted, bound, behind⟩ := ih rest
        refine ⟨v :: first, second, rfl, congrArg (· + 1) counted, ?_, behind⟩
        rw [bindAll, here, bound]
        rfl

end MarkedText

theorem Node.writeAll_singleton (ctx : Context) (node : Node) (p : Printer) :
    writeAll ctx [node] p = write ctx node p := by
  simp only [writeAll]
  exact ite_self _

namespace Clause

variable {word : String} {ts : List String}

theorem ofList_joinConditions_fronts (connector : isConnector word.toList = true)
    (all : ∀ t ∈ ts, Solid t.toList) (some : ts ≠ []) :
    String.ofList (joinConditions
        (ts.flatMap fun t => (word ++ " ").toList ++ t.toList ++ " ".toList))
      = whereKeyword ++ " " ++ (" " ++ word ++ " ").intercalate ts := by
  have solid : ∀ r ∈ ts.map String.toList, Solid r := by simpa using all
  have joined := joinConditions_fronts connector solid (by simpa using some)
  rw [List.flatMap_map] at joined
  rw [← String.toList_inj]
  simpa using joined

theorem ofList_joinConditions_backs (connector : isConnector word.toList = true)
    (all : ∀ t ∈ ts, Solid t.toList) (some : ts ≠ []) :
    String.ofList (joinConditions
        (ts.flatMap fun t => "".toList ++ t.toList ++ (" " ++ word ++ " ").toList))
      = whereKeyword ++ (" " ++ word ++ " ").intercalate ts ++ " " := by
  have solid : ∀ r ∈ ts.map String.toList, Solid r := by simpa using all
  have joined := joinConditions_backs connector solid (by simpa using some)
  rw [List.flatMap_map] at joined
  rw [← String.toList_inj]
  simpa using joined

theorem ofList_joinAssignments_backs (all : ∀ t ∈ ts, Solid t.toList) (some : ts ≠ []) :
    String.ofList (joinAssignments (ts.flatMap fun t => "".toList ++ t.toList ++ ", ".toList))
      = setKeyword ++ ", ".intercalate ts := by
  have trimmed : ∀ r ∈ ts.map String.toList, Text.Trimmed r := by
    simpa using fun t found => (all t found).toTrimmed
  have joined := joinAssignments_backs trimmed (by simpa using some)
  rw [List.flatMap_map] at joined
  rw [← String.toList_inj]
  simpa using joined

end Clause

/-- A text that is written where a test holds. It is read, and joins with others. -/
structure Fragment where
  test : Condition
  text : String
  marked : MarkedText
  read : MarkedText.ofText? text = .ok marked
  solid : Clause.Solid text.toList

namespace Fragment

open Node (write writeAll writeText holds)

def template (front back : String) (f : Fragment) : Template :=
  .conditional f.test.source [.text (front ++ f.text ++ back)]

def node (front back : String) (f : Fragment) : Node :=
  .conditional f.test [.text ((f.marked.prepend front).append back)]

def Decided (ctx : Context) (f : Fragment) : Prop :=
  ∃ b, (f.test.expr.eval f.test.functions ctx.source).map Value.resolved = .ok (.boolean b)

def isSelected (ctx : Context) (f : Fragment) : Bool :=
  match (f.test.expr.eval f.test.functions ctx.source).map Value.resolved with
  | .ok (.boolean b) => b
  | _ => false

def selected (ctx : Context) (fragments : List Fragment) : List Fragment :=
  fragments.filter (isSelected ctx)

def markers (fragments : List Fragment) : List Marker := fragments.flatMap (·.marked.markers)

def texts (ph : Placeholder) (start : Nat) : List Fragment → List String
  | [] => []
  | f :: rest =>
    f.marked.withPlaceholders ph start :: texts ph (start + f.marked.markers.length) rest

variable {ctx : Context} {fragments : List Fragment} {front back : String}

theorem ofText?_surrounded (f : Fragment) (plain : '#' ∉ front.toList)
    (bare : '\x7b' ∉ back.toList) : MarkedText.ofText? (front ++ f.text ++ back)
      = .ok ((f.marked.prepend front).append back) := by
  have read := MarkedText.ofText?_eq_ok_iff.1 f.read
  rw [MarkedText.ofText?_eq_ok_iff, String.toList_append, String.toList_append]
  exact (read.prepend plain).append bare

theorem build_template {functions : Registry} {f : Fragment}
    (guarded : Template.guard functions f.test.source [.text f.marked] = .ok f.test)
    (plain : '#' ∉ front.toList) (bare : '\x7b' ∉ back.toList) :
    Template.build functions (f.template front back) = .ok (f.node front back) := by
  have guarded : Template.guard functions f.test.source
      [.text ((f.marked.prepend front).append back)] = .ok f.test := guarded
  simp only [template, Template.build, Template.buildAll, f.ofText?_surrounded plain bare]
  simp only [bind, Except.bind, pure, Except.pure, guarded]
  rfl

theorem buildAll_templates (front back : String) {functions : Registry}
    (guarded : ∀ f ∈ fragments,
      Template.guard functions f.test.source [.text f.marked] = .ok f.test)
    (plain : '#' ∉ front.toList) (bare : '\x7b' ∉ back.toList) :
    Template.buildAll functions (fragments.map (template front back))
      = .ok (fragments.map (node front back)) := by
  induction fragments with
  | nil => rfl
  | cons f rest ih =>
    obtain ⟨own, others⟩ := List.forall_mem_cons.1 guarded
    rw [List.map_cons, Template.buildAll, build_template own plain bare, ih others]
    rfl

theorem holds_of_decided {f : Fragment} (decided : f.Decided ctx) (body : List Node) :
    holds ctx.source f.test body = .ok (f.isSelected ctx) := by
  obtain ⟨b, inside⟩ := decided
  rw [isSelected, inside, holds]
  cases came : f.test.expr.eval f.test.functions ctx.source with
  | error e =>
    rw [came] at inside
    cases inside
  | ok v =>
    rw [came] at inside
    have inside : v.resolved = .boolean b := Except.ok.inj inside
    simp only [bind, Except.bind, inside]
    rfl

theorem write_node {f : Fragment} (decided : f.Decided ctx) (p : Printer) :
    write ctx (f.node front back) p
      = if f.isSelected ctx then writeText ctx ((f.marked.prepend front).append back) p else p := by
  rw [node, write, holds_of_decided decided]
  cases f.isSelected ctx with
  | true =>
    rw [← write, ← Node.writeAll_singleton]
    rfl
  | false => rfl

theorem writeText_of_bound {t : MarkedText} {values : List Value}
    (bound : MarkedText.bindAll ctx.source t.markers = .ok values) (p : Printer) :
    writeText ctx ((t.prepend front).append back) p
      = (p.write (front ++ t.withPlaceholders ctx.dialect.placeholder p.index ++ back)).push
        values := by
  simp only [writeText, MarkedText.bind, MarkedText.markers_append, MarkedText.markers_prepend,
    bound, MarkedText.withPlaceholders_append, MarkedText.withPlaceholders_prepend]

theorem writeAll_nodes {values : List Value} (decided : ∀ f ∈ fragments, f.Decided ctx)
    (bound : MarkedText.bindAll ctx.source (markers (selected ctx fragments)) = .ok values)
    {p : Printer} (ok : p.isFailed = false) :
    writeAll ctx (fragments.map (node front back)) p
      = (p.write (String.join ((texts ctx.dialect.placeholder p.index
          (selected ctx fragments)).map fun t => front ++ t ++ back))).push values := by
  -- A selected fragment moves the numbering on, so the rest is written by another printer.
  induction fragments generalizing p values with
  | nil =>
    cases bound
    simp [writeAll, selected, texts, Printer.write, Printer.push]
  | cons f rest ih =>
    obtain ⟨own, others⟩ := List.forall_mem_cons.1 decided
    rw [List.map_cons, writeAll, write_node own]
    cases chosen : f.isSelected ctx with
    | false =>
      have same : selected ctx (f :: rest) = selected ctx rest := by simp [selected, chosen]
      rw [same] at bound ⊢
      simp only [Bool.false_eq_true, if_false, ok]
      exact ih others bound ok
    | true =>
      have same : selected ctx (f :: rest) = f :: selected ctx rest := by simp [selected, chosen]
      rw [same, markers, List.flatMap_cons] at bound
      obtain ⟨first, second, rfl, counted, here, behind⟩ :=
        MarkedText.exists_of_bindAll_append bound
      have going (s : String) : ((p.write s).push first).isFailed = false := ok
      simp only [if_true, writeText_of_bound here, going, Bool.false_eq_true, if_false]
      rw [ih others behind (going _), same, Printer.index_push, Printer.index_write, counted]
      simp [texts, Printer.write, Printer.push, String.append_assoc]

variable {ph : Placeholder} {n : Nat}

theorem texts_ne_nil (some : fragments ≠ []) : texts ph n fragments ≠ [] := by
  cases fragments with
  | nil => exact absurd rfl some
  | cons f rest => exact List.cons_ne_nil _ _

theorem solid_of_mem_texts {t : String} (found : t ∈ texts ph n fragments) :
    Clause.Solid t.toList := by
  induction fragments generalizing n with
  | nil => cases found
  | cons f rest ih =>
    rcases List.mem_cons.1 found with rfl | found
    · have spelled := (MarkedText.ofText?_eq_ok_iff.1 f.read).spell_outline
      rw [← MarkedText.fill_outline]
      exact Outline.solid_fill (spelled ▸ f.solid) ph n
    · exact ih found

theorem clause_nodes {clause : (Printer → Printer) → Printer → Printer} {keyword : String}
    {join : List Char → List Char} (joins : Clause.Joins clause keyword join) {values : List Value}
    (decided : ∀ f ∈ fragments, f.Decided ctx)
    (bound : MarkedText.bindAll ctx.source (markers (selected ctx fragments)) = .ok values)
    {p : Printer} (ok : p.isFailed = false) :
    clause (writeAll ctx (fragments.map (node front back))) p
      = (p.write (String.ofList (join
          ((texts ctx.dialect.placeholder p.index (selected ctx fragments)).flatMap
            fun t => front.toList ++ t.toList ++ back.toList)))).push values := by
  have opened : (p.write keyword).isFailed = false := ok
  rw [joins.written ok (writeAll_nodes decided bound opened)]
  simp only [Printer.index_write, String.toList_join, List.flatMap_map, String.toList_append]

theorem buildAll_clauses {word : String} (connector : Clause.isConnector word.toList = true)
    {functions : Registry} (guarded : ∀ f ∈ fragments,
      Template.guard functions f.test.source [.text f.marked] = .ok f.test) :
    Template.buildAll functions
        [.whereClause (fragments.map (template (word ++ " ") " ")),
          .whereClause (fragments.map (template "" (" " ++ word ++ " "))),
          .setClause (fragments.map (template "" ", "))]
      = .ok [.whereClause (fragments.map (node (word ++ " ") " ")),
          .whereClause (fragments.map (node "" (" " ++ word ++ " "))),
          .setClause (fragments.map (node "" ", "))] := by
  have sharp : '#' ∉ word.toList := Clause.notMem_of_isConnector connector (by decide)
  have brace : '\x7b' ∉ word.toList := Clause.notMem_of_isConnector connector (by decide)
  have leading := buildAll_templates (word ++ " ") " " guarded (by simpa using sharp) (by decide)
  have trailing := buildAll_templates "" (" " ++ word ++ " ") guarded (by decide)
    (by simpa using brace)
  have commas := buildAll_templates "" ", " guarded (by decide) (by decide)
  simp only [Template.buildAll, Template.build, leading, trailing, commas]
  rfl

theorem clause_nodes_of_none {clause : (Printer → Printer) → Printer → Printer} {keyword : String}
    {join : List Char → List Char} (joins : Clause.Joins clause keyword join)
    (empty : join [] = []) (decided : ∀ f ∈ fragments, f.Decided ctx)
    (none : selected ctx fragments = []) {p : Printer} (ok : p.isFailed = false) :
    clause (writeAll ctx (fragments.map (node front back))) p = p := by
  have bound : MarkedText.bindAll ctx.source (markers (selected ctx fragments)) = .ok [] := by
    rw [none]
    rfl
  rw [clause_nodes joins decided bound ok, none, texts, List.flatMap_nil, empty]
  simp [Printer.write, Printer.push]

/-- Optional fragments are built with a connector in front, a connector behind or a comma behind
them. Where their tests come to truth values and the markers of the selected ones are found, a
clause over them writes nothing if none is selected. Otherwise it joins the texts of the selected
ones and binds their values, with placeholders that go on with the numbering. -/
theorem write_clauses {word : String} (connector : Clause.isConnector word.toList = true)
    (decided : ∀ f ∈ fragments, f.Decided ctx)
    (found : ∀ f ∈ selected ctx fragments, ∀ m ∈ f.marked.markers,
      ∃ v, ctx.source m.name = .ok (some v)) :
    (∀ functions, (∀ f ∈ fragments,
        Template.guard functions f.test.source [.text f.marked] = .ok f.test) →
      Template.buildAll functions
          [.whereClause (fragments.map (template (word ++ " ") " ")),
            .whereClause (fragments.map (template "" (" " ++ word ++ " "))),
            .setClause (fragments.map (template "" ", "))]
        = .ok [.whereClause (fragments.map (node (word ++ " ") " ")),
            .whereClause (fragments.map (node "" (" " ++ word ++ " "))),
            .setClause (fragments.map (node "" ", "))])
      ∧ (selected ctx fragments = [] → ∀ p, p.isFailed = false →
        write ctx (.whereClause (fragments.map (node (word ++ " ") " "))) p = p
          ∧ write ctx (.whereClause (fragments.map (node "" (" " ++ word ++ " ")))) p = p
          ∧ write ctx (.setClause (fragments.map (node "" ", "))) p = p)
      ∧ (selected ctx fragments ≠ [] → ∃ values,
        MarkedText.bindAll ctx.source (markers (selected ctx fragments)) = .ok values
          ∧ ∀ p, p.isFailed = false →
            let ts := texts ctx.dialect.placeholder p.index (selected ctx fragments)
            write ctx (.whereClause (fragments.map (node (word ++ " ") " "))) p
                = (p.write (" WHERE " ++ " " ++ (" " ++ word ++ " ").intercalate ts)).push values
              ∧ write ctx (.whereClause (fragments.map (node "" (" " ++ word ++ " ")))) p
                = (p.write (" WHERE " ++ (" " ++ word ++ " ").intercalate ts ++ " ")).push values
              ∧ write ctx (.setClause (fragments.map (node "" ", "))) p
                = (p.write (" SET " ++ ", ".intercalate ts)).push values) := by
  refine ⟨fun functions guarded => buildAll_clauses connector guarded, ?_, ?_⟩
  · intro none p ok
    have conditions : Clause.joinConditions [] = [] := rfl
    have assignments : Clause.joinAssignments [] = [] := rfl
    rw [write, write, write]
    exact ⟨clause_nodes_of_none Clause.joins_writeWhere conditions decided none ok,
      clause_nodes_of_none Clause.joins_writeWhere conditions decided none ok,
      clause_nodes_of_none Clause.joins_writeSet assignments decided none ok⟩
  · intro some
    have there : ∀ m ∈ markers (selected ctx fragments),
        ∃ v, ctx.source m.name = .ok (.some v) := by
      intro m inside
      obtain ⟨f, chosen, inside⟩ := List.mem_flatMap.1 inside
      exact found f chosen m inside
    obtain ⟨values, bound⟩ := MarkedText.exists_bindAll there
    refine ⟨values, bound, ?_⟩
    intro p ok ts
    have full : ts ≠ [] := texts_ne_nil some
    have solid : ∀ t ∈ ts, Clause.Solid t.toList := fun t inside => solid_of_mem_texts inside
    rw [write, write, write, clause_nodes Clause.joins_writeWhere decided bound ok,
      clause_nodes Clause.joins_writeWhere decided bound ok,
      clause_nodes Clause.joins_writeSet decided bound ok,
      Clause.ofList_joinConditions_fronts connector solid full,
      Clause.ofList_joinConditions_backs connector solid full,
      Clause.ofList_joinAssignments_backs solid full]
    exact ⟨rfl, rfl, rfl⟩

theorem write_clauses_selection :
    let flags : List (String × Value) := [("a", .boolean true), ("b", .boolean false)]
    let ctx : Context :=
      ⟨.postgres, .ofBindings (flags ++ [("x", .integer 1), ("y", .text "z")])⟩
    let a : Condition := ⟨"a", .param "a", .builtin⟩
    let b : Condition := ⟨"b", .param "b", .builtin⟩
    ∃ x n y : Fragment, x.test = a ∧ x.text = "x = #\x7bx\x7d" ∧ n.test = b ∧ n.text = "n"
      ∧ y.test = a ∧ y.text = "#\x7by\x7d"
      ∧ Clause.isConnector "And".toList = true
      ∧ (∀ f ∈ [x, n, y], f.Decided ctx)
      ∧ (∀ f ∈ selected ctx [x, n, y], ∀ m ∈ f.marked.markers,
        ∃ v, ctx.source m.name = .ok (some v))
      ∧ write ctx (.whereClause ([x, n, y].map (node "And " " "))) (.start 0)
        = ((Printer.start 0).write " WHERE  x = $1 And $2").push [.integer 1, .text "z"]
      ∧ write ctx (.setClause ([x, n, y].map (node "" ", "))) (.start 0)
        = ((Printer.start 0).write " SET x = $1, $2").push [.integer 1, .text "z"] := by
  intro flags ctx a b
  let x : Fragment := ⟨a, "x = #\x7bx\x7d", ⟨"x = ", [(⟨"x"⟩, "")]⟩,
    MarkedText.ofText?_eq_ok_iff.2 (.marker rfl rfl rfl (.plain rfl)), by decide⟩
  let n : Fragment := ⟨b, "n", ⟨"n", []⟩, MarkedText.ofText?_eq_ok_iff.2 (.plain rfl), by decide⟩
  let y : Fragment := ⟨a, "#\x7by\x7d", ⟨"", [(⟨"y"⟩, "")]⟩,
    MarkedText.ofText?_eq_ok_iff.2 (.marker rfl rfl rfl (.plain rfl)), by decide⟩
  have connector : Clause.isConnector "And".toList = true := by decide
  have decided : ∀ f ∈ [x, n, y], f.Decided ctx := by
    simp only [List.forall_mem_cons]
    exact ⟨⟨true, rfl⟩, ⟨false, rfl⟩, ⟨true, rfl⟩, nofun⟩
  have chosen : selected ctx [x, n, y] = [x, y] := rfl
  have found : ∀ f ∈ selected ctx [x, n, y], ∀ m ∈ f.marked.markers,
      ∃ v, ctx.source m.name = .ok (some v) := by
    have bindsX : ∀ m ∈ x.marked.markers, ∃ v, ctx.source m.name = .ok (some v) :=
      List.forall_mem_singleton.2 ⟨.integer 1, rfl⟩
    have bindsY : ∀ m ∈ y.marked.markers, ∃ v, ctx.source m.name = .ok (some v) :=
      List.forall_mem_singleton.2 ⟨.text "z", rfl⟩
    exact List.forall_mem_cons.2 ⟨bindsX, List.forall_mem_singleton.2 bindsY⟩
  obtain ⟨-, -, joined⟩ := write_clauses connector decided found
  obtain ⟨values, bound, joined⟩ := joined (by simp [chosen])
  obtain rfl : [.integer 1, .text "z"] = values := Except.ok.inj bound
  obtain ⟨conditions, -, assignments⟩ := joined (.start 0) rfl
  have front : "And" ++ " " = "And " := by decide
  have shown : " WHERE " ++ " " ++ (" " ++ "And" ++ " ").intercalate (texts .dollar 0 [x, y])
      = " WHERE  x = $1 And $2" := by decide
  have assigned : " SET " ++ ", ".intercalate (texts .dollar 0 [x, y]) = " SET x = $1, $2" := by
    decide
  rw [front] at conditions
  refine ⟨x, n, y, rfl, rfl, rfl, rfl, rfl, rfl, connector, decided, found, conditions.trans ?_,
    assignments.trans ?_⟩
  · exact congrArg (fun s => ((Printer.start 0).write s).push _) shown
  · exact congrArg (fun s => ((Printer.start 0).write s).push _) assigned

end Fragment
end SqlTemplate
