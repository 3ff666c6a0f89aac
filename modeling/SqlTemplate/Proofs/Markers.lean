import SqlTemplate.Proofs.Draft

namespace SqlTemplate

namespace Value

theorem kind_resolved (v : Value) : v.resolved.kind ≠ .nullable := by
  match v with
  | .present v => exact kind_resolved v
  | .absent | .null | .boolean _ | .integer _ | .real _ | .numeric _ | .text _ | .date _
  | .timestamp _ | .timestampTz _ | .uuid _ | .bytea _ | .list _ | .map _ => exact nofun

theorem eq_map_integer {vs : List Value} {ns : List Int}
    (h : vs.map asInteger? = ns.map some) : vs = ns.map .integer := by
  induction vs generalizing ns with
  | nil => rw [List.map_eq_nil_iff.1 h.symm, List.map_nil]
  | cons v vs ih =>
    cases ns with
    | nil => exact absurd h (List.cons_ne_nil _ _)
    | cons n ns =>
      obtain ⟨first, rest⟩ := List.cons.inj h
      rw [ih rest, List.map_cons]
      cases v <;> cases first
      rfl

end Value

namespace MarkedText

theorem bindMarker_eq_ok {source : Source} {m : Marker} {v : Value}
    (h : bindMarker source m = .ok v) : ∃ found, source m.name = .ok (some found)
      ∧ v = found.resolved := by
  rw [bindMarker] at h
  cases answer : source m.name with
  | error e =>
    rw [answer] at h
    cases h
  | ok found? =>
    rw [answer] at h
    cases found? with
    | none => cases h
    | some found =>
      cases h
      exact ⟨found, rfl, rfl⟩

end MarkedText

namespace Draft

/-- The statement of a draft, with the markers that its values are bound for. -/
def marked (d : Draft) : MarkedText := (d.outline.map Binding.marker).toMarked

theorem markers_marked (d : Draft) : d.marked.markers = d.outline.holes.map Binding.marker := by
  rw [marked, Outline.markers_toMarked, Outline.holes_map]

theorem finish_print_of_none {d : Draft} (ok : d.error? = none) (ph : Placeholder) (n : Nat) :
    (d.print ph n).finish = .ok (d.marked.withPlaceholders ph n, d.values) := by
  rw [marked, Outline.withPlaceholders_toMarked, Outline.fill_map]
  simp only [print, Printer.finish, ok]

theorem finish_print_of_some {d : Draft} {e : Error} (failed : d.error? = some e)
    (ph : Placeholder) (n : Nat) : (d.print ph n).finish = .error e := by
  simp only [print, Printer.finish, failed]

theorem andThen_eq_none {d e : Draft} (h : (d.andThen e).error? = none) :
    d.error? = none ∧ e.error? = none := by
  cases ok : d.error? with
  | some error =>
    rw [andThen_of_error ok, ok] at h
    cases h
  | none =>
    rw [andThen_of_none ok] at h
    exact ⟨rfl, h⟩

theorem clause_eq_none {d : Draft} {keyword : String} {cut : Outline Binding → Outline Binding}
    (h : (d.clause keyword cut).error? = none) : d.error? = none := by
  cases ok : d.error? with
  | none => rfl
  | some e =>
    rw [clause_of_error ok] at h
    exact ok.symm.trans h

end Draft

namespace Node

/-- Rendering is uniform: under every dialect and from every first number, nodes leave one
error, or the same literal pieces around placeholders and the same values. -/
theorem writeAll_uniform (source : Source) (nodes : List Node) :
    (∃ e, ∀ (dialect : Dialect) (start : Nat),
      (writeAll ⟨dialect, source⟩ nodes (.start start)).finish = .error e)
    ∨ ∃ (t : MarkedText) (values : List Value), t.markers.length = values.length
      ∧ ∀ (dialect : Dialect) (start : Nat),
        (writeAll ⟨dialect, source⟩ nodes (.start start)).finish
          = .ok (t.withPlaceholders dialect.placeholder start, values) := by
  let d := draftAll source nodes
  cases h : d.error? with
  | some e =>
    refine .inl ⟨e, ?_⟩
    intro dialect start
    rw [finish_writeAll]
    exact Draft.finish_print_of_some h dialect.placeholder start
  | none =>
    refine .inr ⟨d.marked, d.values, ?_, ?_⟩
    · rw [Draft.markers_marked, Draft.values, List.length_map, List.length_map]
    · intro dialect start
      rw [finish_writeAll]
      exact Draft.finish_print_of_none h dialect.placeholder start

mutual

/-- The markers that a node renders, in document order, each with the source in scope there. -/
def rendered (source : Source) : Node → List (Source × Marker)
  | .text t => t.markers.map (source, ·)
  | .conditional test body =>
    match holds source test body with
    | .ok true => renderedAll source body
    | _ => []
  | .choose branches otherwise =>
    renderedBranches source branches (renderedAll source otherwise)
  | .forEach loop body =>
    match loopElements source loop (Node.describe (.forEach loop body)) with
    | .ok elements => elements.flatMap fun (key, element) =>
        renderedAll (loopSource source loop key element) body
    | .error _ => []
  | .whereClause body => renderedAll source body
  | .setClause body => renderedAll source body
  | .print _ => []
  | .sequence body => renderedAll source body

def renderedAll (source : Source) : List Node → List (Source × Marker)
  | [] => []
  | node :: rest => rendered source node ++ renderedAll source rest

def renderedBranches (source : Source) :
    List (Condition × List Node) → List (Source × Marker) → List (Source × Marker)
  | [], otherwise => otherwise
  | (test, body) :: rest, otherwise =>
    match holds source test body with
    | .ok true => renderedAll source body
    | .ok false => renderedBranches source rest otherwise
    | .error _ => []

end

end Node

def Draft.Binds (d : Draft) (places : List (Source × Marker)) : Prop :=
  d.error? = none → d.outline.holes.map (fun b => (b.source, b.marker)) = places

namespace Draft.Binds

variable {d e : Draft} {places more : List (Source × Marker)}

theorem empty : Draft.empty.Binds [] := fun _ => rfl

theorem write (s : String) : (Draft.write s).Binds [] := by
  intro _
  rw [Draft.write, Outline.holes_literal]
  rfl

theorem fail (error : Error) (places : List (Source × Marker)) :
    (Draft.fail error).Binds places := nofun

theorem andThen (first : d.Binds places) (second : e.Binds more) :
    (d.andThen e).Binds (places ++ more) := by
  intro ok
  obtain ⟨before, behind⟩ := andThen_eq_none ok
  rw [andThen_of_none before, Outline.holes_append, List.map_append, first before, second behind]

theorem clause {keyword : String} {cut : Outline Binding → Outline Binding}
    {join : List Char → List Char} (h : d.Binds places) (cuts : Outline.Cuts cut join) :
    (d.clause keyword cut).Binds places := by
  intro ok
  have inner := clause_eq_none ok
  rw [clause_of_none inner, cuts.holes]
  exact h inner

end Draft.Binds

namespace Node

theorem holes_bindingsOf {source : Source} {rest : List (Marker × String)} {o : Outline Binding}
    (h : bindingsOf source rest = .ok o) :
    o.holes.map (fun b => (b.source, b.marker))
      = rest.map fun fragment => (source, fragment.1) := by
  induction rest generalizing o with
  | nil =>
    cases h
    rfl
  | cons fragment rest ih =>
    obtain ⟨m, s⟩ := fragment
    cases bound : MarkedText.bindMarker source m with
    | error e =>
      rw [bindingsOf_cons_of_error bound] at h
      cases h
    | ok v =>
      rw [bindingsOf_cons bound] at h
      cases more : bindingsOf source rest with
      | error e =>
        rw [more] at h
        cases h
      | ok q =>
        rw [more] at h
        cases h
        rw [Outline.holes, Outline.holes_append, Outline.holes_literal, List.nil_append,
          List.map_cons, List.map_cons, ih more]

theorem binds_draftText (source : Source) (t : MarkedText) :
    (draftText source t).Binds (t.markers.map (source, ·)) := by
  rw [draftText]
  cases h : bindingsOf source t.rest with
  | error e => exact Draft.Binds.fail e _
  | ok o =>
    intro _
    rw [Outline.holes_append, Outline.holes_literal, List.nil_append, holes_bindingsOf h,
      MarkedText.markers, List.map_map]
    rfl

theorem binds_draftPrint (source : Source) (print : Print) :
    (draftPrint source print).Binds [] := by
  rw [draftPrint]
  cases printText source print with
  | error e => exact Draft.Binds.fail e []
  | ok s => exact Draft.Binds.write _

theorem binds_draftElements {source : Source} {loop : Loop} {drafted : Source → Draft}
    {places : Source → List (Source × Marker)}
    (inner : ∀ source, (drafted source).Binds (places source))
    (isFirst : Bool) (elements : List (Value × Value)) :
    (draftElements source loop drafted isFirst elements).Binds
      (elements.flatMap fun (key, element) => places (loopSource source loop key element)) := by
  induction elements generalizing isFirst with
  | nil => exact Draft.Binds.write loop.closing
  | cons element rest ih =>
    obtain ⟨key, element⟩ := element
    have separator : (if isFirst then Draft.empty else Draft.write loop.separator).Binds [] := by
      cases isFirst with
      | true => exact Draft.Binds.empty
      | false => exact Draft.Binds.write loop.separator
    exact (separator.andThen (inner (loopSource source loop key element))).andThen (ih false)

theorem binds_draftLoop {source : Source} {loop : Loop} {shown : String}
    {drafted : Source → Draft} {places : Source → List (Source × Marker)}
    (inner : ∀ source, (drafted source).Binds (places source)) :
    (draftLoop source loop shown drafted).Binds
      (match loopElements source loop shown with
        | .ok elements => elements.flatMap fun (key, element) =>
            places (loopSource source loop key element)
        | .error _ => []) := by
  rw [draftLoop]
  cases loopElements source loop shown with
  | error e => exact Draft.Binds.fail e []
  | ok elements =>
    cases elements with
    | nil => exact Draft.Binds.empty
    | cons element rest =>
      exact (Draft.Binds.write loop.opening).andThen
        (binds_draftElements inner true (element :: rest))

mutual

theorem binds_draft (source : Source) (node : Node) :
    (draft source node).Binds (rendered source node) := by
  cases node with
  | text t => exact binds_draftText source t
  | conditional test body =>
    rw [draft, rendered]
    cases holds source test body with
    | error e => exact Draft.Binds.fail e []
    | ok b =>
      cases b with
      | true => exact binds_draftAll source body
      | false => exact Draft.Binds.empty
  | choose branches otherwise =>
    exact binds_draftBranches source branches (binds_draftAll source otherwise)
  | forEach loop body =>
    rw [draft, rendered]
    exact binds_draftLoop fun inner => binds_draftAll inner body
  | whereClause body => exact (binds_draftAll source body).clause Outline.cuts_whereClause
  | setClause body => exact (binds_draftAll source body).clause Outline.cuts_setClause
  | print print => exact binds_draftPrint source print
  | sequence body => exact binds_draftAll source body

theorem binds_draftAll (source : Source) (nodes : List Node) :
    (draftAll source nodes).Binds (renderedAll source nodes) := by
  cases nodes with
  | nil => exact Draft.Binds.empty
  | cons node rest =>
    exact (binds_draft source node).andThen (binds_draftAll source rest)

theorem binds_draftBranches (source : Source)
    (branches : List (Condition × List Node)) {d : Draft} {places : List (Source × Marker)}
    (last : d.Binds places) :
    (draftBranches source branches d).Binds
      (renderedBranches source branches places) := by
  cases branches with
  | nil => exact last
  | cons branch rest =>
    obtain ⟨test, body⟩ := branch
    rw [draftBranches, renderedBranches]
    cases holds source test body with
    | error e => exact Draft.Binds.fail e []
    | ok b =>
      cases b with
      | true => exact binds_draftAll source body
      | false => exact binds_draftBranches source rest last

end

/-- Whether a value is what a marker binds in its scope: found under the name there, and looked
through. -/
def BoundAt (place : Source × Marker) (v : Value) : Prop :=
  ∃ found, place.1 place.2.name = .ok (some found) ∧ v = found.resolved ∧ v.kind ≠ .nullable

theorem boundAt_of_binding (b : Binding) : BoundAt (b.source, b.marker) b.value := by
  obtain ⟨found, answer, same⟩ := MarkedText.bindMarker_eq_ok b.bound
  refine ⟨found, answer, same, ?_⟩
  rw [same]
  exact Value.kind_resolved found

theorem boundAt_of_bindings (bs : List Binding) :
    List.Forall₂ BoundAt (bs.map fun b => (b.source, b.marker)) (bs.map Binding.value) := by
  induction bs with
  | nil => exact .nil
  | cons b bs ih => exact .cons (boundAt_of_binding b) ih

theorem render_eq_of_integers {ctx : Context} {nodes : List Node} {sql : String} {n : List Int}
    (h : (render ctx nodes).toOption.map (fun r => (r.1, r.2.map Value.asInteger?))
      = some (sql, n.map some)) : render ctx nodes = .ok (sql, n.map .integer) := by
  cases rendering : render ctx nodes with
  | error e =>
    rw [rendering] at h
    cases h
  | ok r =>
    rw [rendering] at h
    obtain ⟨same, integers⟩ := Prod.mk.inj (Option.some.inj h)
    rw [← same, ← Value.eq_map_integer integers]

/-- A rendered statement has one value for each marker that is rendered, in document order, and
it is a marked text with exactly these markers, whose placeholders are numbered from zero. The
text around them is literal: it is the same under every dialect. -/
theorem render_markers_bound {ctx : Context} {nodes : List Node} {sql : String}
    {values : List Value} (h : render ctx nodes = .ok (sql, values)) :
    List.Forall₂ BoundAt (renderedAll ctx.source nodes) values
    ∧ ∃ t : MarkedText, t.markers = (renderedAll ctx.source nodes).map Prod.snd
      ∧ sql = t.withPlaceholders ctx.dialect.placeholder 0
      ∧ ∀ dialect : Dialect, render { ctx with dialect } nodes
        = .ok (t.withPlaceholders dialect.placeholder 0, values) := by
  let d := draftAll ctx.source nodes
  have drafted (dialect : Dialect) : render { ctx with dialect } nodes
      = (d.print dialect.placeholder 0).finish := finish_writeAll { ctx with dialect } nodes 0
  have own : render ctx nodes = (d.print ctx.dialect.placeholder 0).finish := drafted ctx.dialect
  cases ok : d.error? with
  | some e =>
    rw [own, Draft.finish_print_of_some ok] at h
    cases h
  | none =>
    rw [own, Draft.finish_print_of_none ok] at h
    cases h
    have places := binds_draftAll ctx.source nodes ok
    rw [← places]
    refine ⟨boundAt_of_bindings d.outline.holes, d.marked, ?_, rfl, ?_⟩
    · rw [Draft.markers_marked, List.map_map]
      rfl
    · intro dialect
      rw [drafted, Draft.finish_print_of_none ok]

theorem render_markers_bound_search :
    let ctx : Context :=
      ⟨.postgres, .ofBindings [("ids", .list [.integer 3, .present (.integer 5)])]⟩
    let nodes : List Node := [.text ⟨"SELECT * FROM users", []⟩, .whereClause [
      .text ⟨"AND id IN ", []⟩,
      .forEach ⟨"ids", "id", "index", "(", ", ", ")"⟩ [.text ⟨"", [(⟨" id "⟩, "")]⟩],
      .text ⟨" or ", []⟩]]
    let sql := "SELECT * FROM users WHERE  id IN ($1, $2) "
    let values : List Value := [.integer 3, .integer 5]
    render ctx nodes = .ok (sql, values)
    ∧ List.Forall₂ BoundAt (renderedAll ctx.source nodes) values
    ∧ ∃ t : MarkedText, t.markers = (renderedAll ctx.source nodes).map Prod.snd
      ∧ sql = t.withPlaceholders ctx.dialect.placeholder 0
      ∧ ∀ dialect : Dialect, render { ctx with dialect } nodes
        = .ok (t.withPlaceholders dialect.placeholder 0, values) := by
  intro ctx nodes sql values
  have rendering : render ctx nodes = .ok (sql, values) := by
    apply render_eq_of_integers (n := [3, 5])
    subst ctx nodes sql
    decide +kernel
  exact ⟨rendering, render_markers_bound rendering⟩

end Node
end SqlTemplate
