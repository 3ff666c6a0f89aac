import SqlTemplate.Proofs.Lockstep
import SqlTemplate.Proofs.Markers
import SqlTemplate.Proofs.Paths

namespace SqlTemplate

namespace Source

def orNull (source : Source) : Source := fun name =>
  match source name with
  | .ok none => .ok (some .null)
  | answer => answer

/-- Whether a source answers every name as another does, or null where that one finds nothing. -/
def Fills (A B : Source) : Prop :=
  ∀ name, B name = A name ∨ A name = .ok none ∧ B name = .ok (some .null)

theorem fills_orNull (source : Source) : source.Fills source.orNull := by
  intro name
  rw [orNull]
  split
  · next missing => exact .inr ⟨missing, rfl⟩
  · exact .inl rfl

namespace Fills

variable {A B : Source}

theorem bind (h : A.Fills B) (bindings : List (String × Value)) :
    (A.bind bindings).Fills (B.bind bindings) := by
  intro name
  cases found : bindings.lookup (Text.headSegment name) with
  | some v => exact .inl ((bind_of_lookup found).trans (bind_of_lookup found).symm)
  | none =>
    rw [bind_of_lookup_none found, bind_of_lookup_none found]
    exact h name

theorem sameParam (h : A.Fills B) (path : String) : Expr.SameParam A B path := by
  rw [Expr.SameParam]
  rcases h path with same | ⟨missing, null⟩
  · rw [same]
  · rw [missing, null]
    rfl

end Fills
end Source

namespace Parting

/-- Where a rendering parts from one that finds null for what is not found: at a marker, one of
those in some places, whose name is not found in its scope. -/
def missing (places : List (Source × Marker)) : Parting where
  Apart a _ := ∃ place ∈ places, place.1 place.2.name = .ok none
    ∧ a = some (.parameterNotFound place.2.name)
  failed := by
    rintro _ _ ⟨place, _, _, rfl⟩
    rfl
  free h _ := h

theorem apart_of_subset {places more : List (Source × Marker)} (within : places ⊆ more)
    {a b : Option Error} : (missing places).Apart a b → (missing more).Apart a b := by
  rintro ⟨place, found, absent, same⟩
  exact ⟨place, within found, absent, same⟩

end Parting

open Parting (missing apart_of_subset)

namespace MarkedText

variable {A B : Source}

theorem alike_bindMarker_of_fills (h : A.Fills B) (m : Marker) :
    (missing [(A, m)]).Alike (bindMarker A m) (bindMarker B m) := by
  rw [bindMarker, bindMarker]
  rcases h m.name with same | ⟨absent, -⟩
  · rw [same]
    exact .refl _
  · rw [absent]
    exact .inr ⟨(A, m), List.mem_singleton_self _, absent, rfl⟩

theorem alike_bindAll_of_fills (h : A.Fills B) (markers : List Marker) :
    (missing (markers.map (A, ·))).Alike (bindAll A markers) (bindAll B markers) := by
  induction markers with
  | nil => exact .refl _
  | cons m markers ih =>
    have first := (alike_bindMarker_of_fills h m).imp
      (apart_of_subset (List.cons_subset_cons _ (List.nil_subset (markers.map (A, ·)))))
    have others := ih.imp (apart_of_subset (List.subset_cons_self (A, m) _))
    exact first.bind fun v => others.bind fun vs => .refl _

end MarkedText

namespace Node

variable {A B : Source}

theorem holds_of_fills (h : A.Fills B) (test : Condition) (body : List Node) :
    holds A test body = holds B test body := by
  rw [holds, holds, Expr.eval_congr test.expr fun path _ => h.sameParam path]

theorem printText_of_fills (h : A.Fills B) (print : Print) :
    printText A print = printText B print := by
  rw [printText, printText]
  rcases h print.name with same | ⟨absent, null⟩
  · rw [same]
  · rw [absent, null]
    rfl

theorem loopElements_of_fills (h : A.Fills B) (loop : Loop) (shown : String) :
    loopElements A loop shown = loopElements B loop shown := by
  rw [loopElements, loopElements]
  rcases h loop.collection with same | ⟨absent, null⟩
  · rw [same]
  · rw [absent, null]
    rfl

variable {dialect : Dialect}

mutual

theorem lockstep_write_of_fills {A B : Source} (h : A.Fills B) (node : Node) :
    (missing (rendered A node)).Lockstep (write ⟨dialect, A⟩ node)
      (write ⟨dialect, B⟩ node) := by
  cases node with
  | text t => exact lockstep_writeText (MarkedText.alike_bindAll_of_fills h t.markers) fun _ => rfl
  | conditional test body =>
    refine lockstep_conditional (.inl (holds_of_fills h test body)) fun holding => ?_
    rw [rendered, holding]
    exact lockstep_writeAll_of_fills h body
  | choose branches otherwise =>
    exact lockstep_writeBranches_of_fills h branches (lockstep_writeAll_of_fills h otherwise)
  | forEach loop body =>
    refine lockstep_writeLoop (.inl (loopElements_of_fills h loop _)) rfl rfl rfl ?_
    intro elements found element among
    have inner := lockstep_writeAll_of_fills
      (h.bind [(loop.item, element.2), (loop.index, element.1)]) body
    refine inner.imp (apart_of_subset ?_)
    rw [rendered, found]
    exact fun place inside => List.mem_flatMap.2 ⟨element, among, inside⟩
  | whereClause body =>
    exact (lockstep_writeAll_of_fills h body).clause Clause.joins_writeWhere Clause.writeWhere_congr
  | setClause body =>
    exact (lockstep_writeAll_of_fills h body).clause Clause.joins_writeSet Clause.writeSet_congr
  | print print => exact lockstep_writePrint (.inl (printText_of_fills h print)) rfl rfl
  | sequence body => exact lockstep_writeAll_of_fills h body

theorem lockstep_writeAll_of_fills {A B : Source} (h : A.Fills B) (nodes : List Node) :
    (missing (renderedAll A nodes)).Lockstep
      (writeAll ⟨dialect, A⟩ nodes) (writeAll ⟨dialect, B⟩ nodes) := by
  cases nodes with
  | nil => exact .refl _
  | cons node rest =>
    have first := lockstep_write_of_fills h node
    have others := lockstep_writeAll_of_fills h rest
    exact (first.imp (apart_of_subset (List.subset_append_left _ _))).andThen
      (others.imp (apart_of_subset (List.subset_append_right _ _)))

theorem lockstep_writeBranches_of_fills {A B : Source} (h : A.Fills B)
    (branches : List (Condition × List Node)) {w v : Printer → Printer}
    {places : List (Source × Marker)} (last : (missing places).Lockstep w v) :
    (missing (renderedBranches A branches places)).Lockstep
      (writeBranches ⟨dialect, A⟩ branches w)
      (writeBranches ⟨dialect, B⟩ branches v) := by
  cases branches with
  | nil => exact last
  | cons branch rest =>
    obtain ⟨test, body⟩ := branch
    refine lockstep_branch (.inl (holds_of_fills h test body)) (fun holding => ?_) fun failing => ?_
    · rw [renderedBranches, holding]
      exact lockstep_writeAll_of_fills h body
    · rw [renderedBranches, failing]
      exact lockstep_writeBranches_of_fills h rest last

end

/-- Finding null for what is not found makes no difference to a rendering, unless it fails for a
marker that it renders and whose name is not found in the scope there. -/
theorem render_orNull (ctx : Context) (nodes : List Node) :
    (render ctx nodes = render { ctx with source := ctx.source.orNull } nodes
      ∨ ∃ place ∈ renderedAll ctx.source nodes, place.1 place.2.name = .ok none
        ∧ render ctx nodes = .error (.parameterNotFound place.2.name))
    ∧ ∀ sql values, render ctx nodes = .ok (sql, values) →
      render { ctx with source := ctx.source.orNull } nodes = .ok (sql, values) := by
  have outcome : render ctx nodes = render { ctx with source := ctx.source.orNull } nodes
      ∨ ∃ place ∈ renderedAll ctx.source nodes, place.1 place.2.name = .ok none
        ∧ render ctx nodes = .error (.parameterNotFound place.2.name) := by
    have filled := Source.fills_orNull ctx.source
    rcases lockstep_writeAll_of_fills filled nodes (Printer.start 0) rfl with
      same | ⟨place, among, absent, stopped⟩
    · exact .inl (congrArg Printer.finish same)
    · refine .inr ⟨place, among, absent, ?_⟩
      rw [render, Printer.finish, stopped]
  refine ⟨outcome, ?_⟩
  intro sql values rendered
  rcases outcome with same | ⟨place, -, -, failed⟩
  · exact same.symm.trans rendered
  · rw [failed] at rendered
    cases rendered

theorem render_orNull_search :
    let ctx : Context := ⟨.mysql, .ofBindings [("id", .integer 4)]⟩
    let test : Condition := ⟨"nick == nil", .binary .eq (.param "nick") (.literal .null), .builtin⟩
    let nodes : List Node := [.conditional test [.text ⟨"id = ", [(⟨"id"⟩, "")]⟩],
      .forEach ⟨"tags", "item", "index", "(", ",", ")"⟩ [.text ⟨"", [(⟨"item"⟩, "")]⟩]]
    render ctx nodes = .ok ("id = ?", [.integer 4])
      ∧ ctx.source "tags" = .ok none ∧ ctx.source.orNull "tags" = .ok (some .null)
      ∧ render { ctx with source := ctx.source.orNull } nodes = .ok ("id = ?", [.integer 4]) := by
  intro ctx test nodes
  have rendered : render ctx nodes = .ok ("id = ?", [.integer 4]) := rfl
  exact ⟨rendered, rfl, rfl, (render_orNull ctx nodes).2 _ _ rendered⟩

example : render ⟨.mysql, .ofBindings []⟩ [.text ⟨"", [(⟨"id"⟩, "")]⟩]
      = .error (.parameterNotFound "id")
    ∧ render ⟨.mysql, (Source.ofBindings []).orNull⟩ [.text ⟨"", [(⟨"id"⟩, "")]⟩]
      = .ok ("?", [.null]) := ⟨rfl, rfl⟩

end Node
end SqlTemplate
