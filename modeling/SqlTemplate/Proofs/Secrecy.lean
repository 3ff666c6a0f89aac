import SqlTemplate.Proofs.Markers
import SqlTemplate.Proofs.Paths
import Mathlib.Data.Set.Basic

namespace SqlTemplate

namespace Source

inductive SameOutcome : Except Error (Option Value) → Except Error (Option Value) → Prop
  | found (v w : Value) : SameOutcome (.ok (some v)) (.ok (some w))
  | missing : SameOutcome (.ok none) (.ok none)
  | failed (e : Error) : SameOutcome (.error e) (.error e)

theorem SameOutcome.refl (answer : Except Error (Option Value)) : SameOutcome answer answer := by
  match answer with
  | .error e => exact .failed e
  | .ok none => exact .missing
  | .ok (some v) => exact .found v v

/-- Whether two sources answer alike every name whose first segment is not secret, and every
other one with the same outcome. -/
structure AgreesOutside (S : Set String) (A B : Source) : Prop where
  same : ∀ name, Text.headSegment name ∉ S → A name = B name
  alike : ∀ name, Text.headSegment name ∈ S → SameOutcome (A name) (B name)

namespace AgreesOutside

variable {S : Set String} {A B : Source}

theorem sameOutcome (agree : AgreesOutside S A B) (name : String) :
    SameOutcome (A name) (B name) := by
  by_cases secret : Text.headSegment name ∈ S
  · exact agree.alike name secret
  · rw [agree.same name secret]
    exact .refl _

theorem bind (agree : AgreesOutside S A B) (bindings : List (String × Value)) :
    AgreesOutside S (Source.bind bindings A) (Source.bind bindings B) := by
  constructor
  · intro name shown
    cases h : bindings.lookup (Text.headSegment name) with
    | some v => rw [bind_of_lookup h, bind_of_lookup h]
    | none =>
      rw [bind_of_lookup_none h, bind_of_lookup_none h]
      exact agree.same name shown
  · intro name secret
    cases h : bindings.lookup (Text.headSegment name) with
    | some v =>
      rw [bind_of_lookup h, bind_of_lookup h]
      exact .refl _
    | none =>
      rw [bind_of_lookup_none h, bind_of_lookup_none h]
      exact agree.alike name secret

theorem bindMarker (agree : AgreesOutside S A B) (m : Marker) :
    (∃ v w, MarkedText.bindMarker A m = .ok v ∧ MarkedText.bindMarker B m = .ok w)
    ∨ ∃ e, MarkedText.bindMarker A m = .error e ∧ MarkedText.bindMarker B m = .error e := by
  have outcome := agree.sameOutcome m.name
  rw [MarkedText.bindMarker, MarkedText.bindMarker]
  generalize A m.name = a at outcome ⊢
  generalize B m.name = b at outcome ⊢
  cases outcome with
  | found v w => exact .inl ⟨v.resolved, w.resolved, rfl, rfl⟩
  | missing => exact .inr ⟨.parameterNotFound m.name, rfl, rfl⟩
  | failed e => exact .inr ⟨e, rfl, rfl⟩

end AgreesOutside

end Source

namespace Node

mutual

/-- Whether a node writes no value as text and looks at no name with a secret first segment to
decide what it writes. -/
def Avoids (S : Set String) : Node → Prop
  | .text _ => True
  | .conditional test body =>
    (∀ path ∈ test.expr.paths, Text.headSegment path ∉ S) ∧ AvoidsAll S body
  | .choose branches otherwise => AvoidsBranches S branches ∧ AvoidsAll S otherwise
  | .forEach loop body => Text.headSegment loop.collection ∉ S ∧ AvoidsAll S body
  | .whereClause body => AvoidsAll S body
  | .setClause body => AvoidsAll S body
  | .print _ => False
  | .sequence body => AvoidsAll S body

def AvoidsAll (S : Set String) : List Node → Prop
  | [] => True
  | node :: rest => Avoids S node ∧ AvoidsAll S rest

def AvoidsBranches (S : Set String) : List (Condition × List Node) → Prop
  | [] => True
  | (test, body) :: rest =>
    (∀ path ∈ test.expr.paths, Text.headSegment path ∉ S) ∧ AvoidsAll S body
      ∧ AvoidsBranches S rest

end

end Node

structure Draft.Alike (d e : Draft) : Prop where
  outline : d.outline.map Binding.marker = e.outline.map Binding.marker
  error? : d.error? = e.error?

namespace Draft.Alike

variable {d d' e e' : Draft}

theorem refl (d : Draft) : d.Alike d := ⟨rfl, rfl⟩

theorem andThen (first : d.Alike d') (second : e.Alike e') :
    (d.andThen e).Alike (d'.andThen e') := by
  cases h : d.error? with
  | some error =>
    rw [andThen_of_error h, andThen_of_error (first.error?.symm.trans h)]
    exact first
  | none =>
    rw [andThen_of_none h, andThen_of_none (first.error?.symm.trans h)]
    refine ⟨?_, second.error?⟩
    rw [Outline.map_append, Outline.map_append, first.outline, second.outline]

theorem clause {keyword : String} {cut : Outline Binding → Outline Binding}
    {cutMarkers : Outline Marker → Outline Marker} (h : d.Alike e)
    (blind : ∀ o, (cut o).map Binding.marker = cutMarkers (o.map Binding.marker)) :
    (d.clause keyword cut).Alike (e.clause keyword cut) := by
  cases ok : d.error? with
  | some error =>
    rw [clause_of_error ok, clause_of_error (h.error?.symm.trans ok)]
    exact (refl _).andThen h
  | none =>
    rw [clause_of_none ok, clause_of_none (h.error?.symm.trans ok)]
    refine ⟨?_, rfl⟩
    rw [blind, h.outline, blind]

theorem marked (h : d.Alike e) : d.marked = e.marked := congrArg Outline.toMarked h.outline

theorem length_values (h : d.Alike e) : d.values.length = e.values.length := by
  have same := congrArg (fun t => t.markers.length) h.marked
  simpa only [markers_marked, List.length_map, values] using same

end Draft.Alike

namespace Node

open Source (AgreesOutside)

variable {S : Set String} {A B : Source}

theorem bindingsOf_alike (agree : AgreesOutside S A B) (rest : List (Marker × String)) :
    (∃ o q, bindingsOf A rest = .ok o ∧ bindingsOf B rest = .ok q
      ∧ o.map Binding.marker = q.map Binding.marker)
    ∨ ∃ e, bindingsOf A rest = .error e ∧ bindingsOf B rest = .error e := by
  induction rest with
  | nil => exact .inl ⟨[], [], rfl, rfl, rfl⟩
  | cons fragment rest ih =>
    obtain ⟨m, s⟩ := fragment
    rcases agree.bindMarker m with ⟨v, w, here, there⟩ | ⟨e, here, there⟩
    · rw [bindingsOf_cons here, bindingsOf_cons there]
      rcases ih with ⟨o, q, left, right, same⟩ | ⟨e, left, right⟩
      · rw [left, right]
        refine .inl ⟨_, _, rfl, rfl, ?_⟩
        change Piece.hole m :: Outline.map _ (_ ++ o) = Piece.hole m :: Outline.map _ (_ ++ q)
        rw [Outline.map_append, Outline.map_append, Outline.map_literal, same]
      · rw [left, right]
        exact .inr ⟨e, rfl, rfl⟩
    · rw [bindingsOf_cons_of_error here, bindingsOf_cons_of_error there]
      exact .inr ⟨e, rfl, rfl⟩

theorem alike_draftText (agree : AgreesOutside S A B) (t : MarkedText) :
    (draftText A t).Alike (draftText B t) := by
  rw [draftText, draftText]
  rcases bindingsOf_alike agree t.rest with ⟨o, q, left, right, same⟩ | ⟨e, left, right⟩
  · rw [left, right]
    refine ⟨?_, rfl⟩
    change Outline.map _ (_ ++ o) = Outline.map _ (_ ++ q)
    rw [Outline.map_append, Outline.map_append, Outline.map_literal, same]
  · rw [left, right]
    exact .refl _

theorem holds_congr (agree : AgreesOutside S A B) {test : Condition}
    (avoid : ∀ path ∈ test.expr.paths, Text.headSegment path ∉ S) (body : List Node) :
    holds A test body = holds B test body := by
  have same : test.expr.eval test.functions A = test.expr.eval test.functions B :=
    Expr.eval_congr test.expr fun path found => .of_eq (agree.same path (avoid path found))
  rw [holds, holds, same]

theorem loopElements_congr (agree : AgreesOutside S A B) {loop : Loop}
    (avoid : Text.headSegment loop.collection ∉ S) (shown : String) :
    loopElements A loop shown = loopElements B loop shown := by
  rw [loopElements, loopElements, agree.same loop.collection avoid]

theorem alike_draftElements (agree : AgreesOutside S A B) {loop : Loop}
    {drafted : Source → Draft}
    (inner : ∀ {A B}, AgreesOutside S A B → (drafted A).Alike (drafted B))
    (isFirst : Bool) (elements : List (Value × Value)) :
    (draftElements A loop drafted isFirst elements).Alike
      (draftElements B loop drafted isFirst elements) := by
  induction elements generalizing isFirst with
  | nil => exact .refl _
  | cons element rest ih =>
    obtain ⟨key, element⟩ := element
    have bound := agree.bind [(loop.item, element), (loop.index, key)]
    exact ((Draft.Alike.refl _).andThen (inner bound)).andThen (ih false)

theorem alike_draftLoop (agree : AgreesOutside S A B) {loop : Loop} {shown : String}
    {drafted : Source → Draft} (avoid : Text.headSegment loop.collection ∉ S)
    (inner : ∀ {A B}, AgreesOutside S A B → (drafted A).Alike (drafted B)) :
    (draftLoop A loop shown drafted).Alike (draftLoop B loop shown drafted) := by
  rw [draftLoop, draftLoop, loopElements_congr agree avoid]
  cases loopElements B loop shown with
  | error e => exact .refl _
  | ok elements =>
    cases elements with
    | nil => exact .refl _
    | cons element rest =>
      exact (Draft.Alike.refl _).andThen (alike_draftElements agree inner true (element :: rest))

mutual

theorem alike_draft {A B : Source} (agree : AgreesOutside S A B) (node : Node)
    (avoid : Avoids S node) : (draft A node).Alike (draft B node) := by
  cases node with
  | text t => exact alike_draftText agree t
  | conditional test body =>
    rw [draft, draft, holds_congr agree avoid.1]
    cases holds B test body with
    | error e => exact .refl _
    | ok b =>
      cases b with
      | true => exact alike_draftAll agree body avoid.2
      | false => exact .refl _
  | choose branches otherwise =>
    exact alike_draftBranches agree branches avoid.1
      (alike_draftAll agree otherwise avoid.2)
  | forEach loop body =>
    exact alike_draftLoop agree avoid.1 fun within => alike_draftAll within body avoid.2
  | whereClause body =>
    exact (alike_draftAll agree body avoid).clause (Outline.map_whereClause _)
  | setClause body =>
    exact (alike_draftAll agree body avoid).clause (Outline.map_setClause _)
  | print print => exact avoid.elim
  | sequence body => exact alike_draftAll agree body avoid

theorem alike_draftAll {A B : Source} (agree : AgreesOutside S A B) (nodes : List Node)
    (avoid : AvoidsAll S nodes) : (draftAll A nodes).Alike (draftAll B nodes) := by
  cases nodes with
  | nil => exact .refl _
  | cons node rest =>
    exact (alike_draft agree node avoid.1).andThen
      (alike_draftAll agree rest avoid.2)

theorem alike_draftBranches {A B : Source} (agree : AgreesOutside S A B)
    (branches : List (Condition × List Node))
    (avoid : AvoidsBranches S branches) {d e : Draft} (last : d.Alike e) :
    (draftBranches A branches d).Alike (draftBranches B branches e) := by
  cases branches with
  | nil => exact last
  | cons branch rest =>
    obtain ⟨test, body⟩ := branch
    rw [draftBranches, draftBranches, holds_congr agree avoid.1]
    cases holds B test body with
    | error e => exact .refl _
    | ok b =>
      cases b with
      | true => exact alike_draftAll agree body avoid.2.1
      | false => exact alike_draftBranches agree rest avoid.2.2 last

end

/-- No text depends on the values under secret names. -/
theorem render_of_agreesOutside {S : Set String} {A B : Source} {nodes : List Node}
    (agree : AgreesOutside S A B) (avoid : AvoidsAll S nodes) (dialect : Dialect) :
    (∃ e, render ⟨dialect, A⟩ nodes = .error e ∧ render ⟨dialect, B⟩ nodes = .error e)
    ∨ ∃ sql vs ws, render ⟨dialect, A⟩ nodes = .ok (sql, vs)
      ∧ render ⟨dialect, B⟩ nodes = .ok (sql, ws) ∧ vs.length = ws.length := by
  have alike := alike_draftAll agree nodes avoid
  have left : render ⟨dialect, A⟩ nodes
      = ((draftAll A nodes).print dialect.placeholder 0).finish :=
    finish_writeAll ⟨dialect, A⟩ nodes 0
  have right : render ⟨dialect, B⟩ nodes
      = ((draftAll B nodes).print dialect.placeholder 0).finish :=
    finish_writeAll ⟨dialect, B⟩ nodes 0
  rw [left, right]
  cases h : (draftAll A nodes).error? with
  | some e =>
    have failed := alike.error?.symm.trans h
    rw [Draft.finish_print_of_some h, Draft.finish_print_of_some failed]
    exact .inl ⟨e, rfl, rfl⟩
  | none =>
    have ok := alike.error?.symm.trans h
    rw [Draft.finish_print_of_none h, Draft.finish_print_of_none ok, alike.marked]
    exact .inr ⟨_, _, _, rfl, rfl, alike.length_values⟩

theorem render_of_agreesOutside_password :
    let source (v : Value) : Source := Source.bind [("password", v)] (.ofBindings [])
    let nodes : List Node := [.text ⟨"SELECT 1 FROM users", []⟩,
      .whereClause [.text ⟨" AND password = ", [(⟨"password"⟩, "")]⟩]]
    AgreesOutside {"password"} (source (.integer 7)) (source (.text "' OR 1 = 1"))
    ∧ AvoidsAll {"password"} nodes
    ∧ ((∃ e, render ⟨.mysql, source (.integer 7)⟩ nodes = .error e
        ∧ render ⟨.mysql, source (.text "' OR 1 = 1")⟩ nodes = .error e)
      ∨ ∃ sql vs ws, render ⟨.mysql, source (.integer 7)⟩ nodes = .ok (sql, vs)
        ∧ render ⟨.mysql, source (.text "' OR 1 = 1")⟩ nodes = .ok (sql, ws)
        ∧ vs.length = ws.length) := by
  intro source nodes
  have agree : AgreesOutside {"password"} (source (.integer 7)) (source (.text "' OR 1 = 1")) := by
    constructor
    · intro name shown
      have other : (Text.headSegment name == "password") = false := beq_false_of_ne shown
      have absent (v : Value) : [("password", v)].lookup (Text.headSegment name) = none := by
        rw [List.lookup_cons, other]
        rfl
      exact (Source.bind_of_lookup_none (absent _)).trans
        (Source.bind_of_lookup_none (absent _)).symm
    · intro name secret
      have same : (Text.headSegment name == "password") = true := beq_iff_eq.2 secret
      have present (v : Value) : [("password", v)].lookup (Text.headSegment name) = some v := by
        rw [List.lookup_cons, same]
      simp only [source, Source.bind_of_lookup (present _)]
      cases (Text.segments name).2 with
      | nil => exact .found _ _
      | cons segment rest => exact .missing
  have avoid : AvoidsAll {"password"} nodes := by
    simp [nodes, AvoidsAll, Avoids]
  exact ⟨agree, avoid, render_of_agreesOutside agree avoid .mysql⟩

end Node
end SqlTemplate
