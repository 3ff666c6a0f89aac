import SqlTemplate.Proofs.Lockstep
import SqlTemplate.Proofs.Renaming

namespace SqlTemplate

open Text (headSegment renameHead)

namespace Source

variable {x y : String} {A B : Source}

/-- Whether a source answers as another does for the renamed name. What it answers for the new name
itself does not count. -/
def Renamed (x y : String) (A B : Source) : Prop :=
  ∀ name, headSegment name ≠ y → A name = B (renameHead x y name)

namespace Renamed

theorem item (plain : '.' ∉ y.toList) (source : Source) (x index : String) (v key : Value) :
    Renamed x y (source.bind [(x, v), (index, key)]) (source.bind [(y, v), (index, key)]) := by
  intro name other
  by_cases own : headSegment name = x
  · have renamed := Text.segments_renameHead plain own
    have head : headSegment (renameHead x y name) = y := congrArg Prod.fst renamed
    have here : [(x, v), (index, key)].lookup (headSegment name) = some v := by simp [own]
    have there : [(y, v), (index, key)].lookup (headSegment (renameHead x y name)) = some v := by
      simp [head]
    rw [bind_of_lookup here, bind_of_lookup there, renamed]
  · have same : [(x, v), (index, key)].lookup (headSegment name)
        = [(y, v), (index, key)].lookup (headSegment name) := by
      simp [List.lookup_cons, beq_false_of_ne own, beq_false_of_ne other]
    rw [Text.renameHead_of_ne own]
    cases found : [(y, v), (index, key)].lookup (headSegment name) with
    | some w => rw [bind_of_lookup (same.trans found), bind_of_lookup found]
    | none => rw [bind_of_lookup_none (same.trans found), bind_of_lookup_none found]

theorem bind (h : Renamed x y A B) (plain : '.' ∉ y.toList) {bindings : List (String × Value)}
    (old : bindings.lookup x = none) (new : bindings.lookup y = none) :
    Renamed x y (A.bind bindings) (B.bind bindings) := by
  intro name other
  by_cases own : headSegment name = x
  · have head : headSegment (renameHead x y name) = y :=
      congrArg Prod.fst (Text.segments_renameHead plain own)
    have here : bindings.lookup (headSegment name) = none := by rw [own, old]
    have there : bindings.lookup (headSegment (renameHead x y name)) = none := by rw [head, new]
    rw [bind_of_lookup_none here, bind_of_lookup_none there]
    exact h name other
  · have renamed := h name other
    rw [Text.renameHead_of_ne own] at renamed ⊢
    cases found : bindings.lookup (headSegment name) with
    | some v => rw [bind_of_lookup found, bind_of_lookup found]
    | none => rw [bind_of_lookup_none found, bind_of_lookup_none found, renamed]

theorem shadow (h : Renamed x y A B) {bindings : List (String × Value)}
    (bound : (bindings.lookup x).isSome = true) :
    Renamed y y (A.bind bindings) (B.bind bindings) := by
  intro name other
  rw [Text.renameHead_self]
  cases found : bindings.lookup (headSegment name) with
  | some v => rw [bind_of_lookup found, bind_of_lookup found]
  | none =>
    have own : headSegment name ≠ x := by
      rintro rfl
      rw [found] at bound
      cases bound
    rw [bind_of_lookup_none found, bind_of_lookup_none found, h name other,
      Text.renameHead_of_ne own]

end Renamed
end Source

open Parting (failures)
open Source (Renamed)

namespace MarkedText

variable {x y : String} {A B : Source}

theorem alike_bindMarker_of_renamed (h : Renamed x y A B) {m n : Marker}
    (fresh : headSegment m.name ≠ y) (same : n.name = renameHead x y m.name) :
    failures.Alike (bindMarker A m) (bindMarker B n) := by
  rw [bindMarker, bindMarker, same, h m.name fresh]
  refine .bind (.refl _) fun found => ?_
  cases found with
  | none => exact .inr ⟨rfl, rfl⟩
  | some v => exact .refl _

theorem alike_bindAll_of_renamed (h : Renamed x y A B) {markers others : List Marker}
    (fresh : y ∉ markers.map fun m => headSegment m.name)
    (same : others.map Marker.name = markers.map fun m => renameHead x y m.name) :
    failures.Alike (bindAll A markers) (bindAll B others) := by
  induction markers generalizing others with
  | nil =>
    rw [List.map_eq_nil_iff.1 same]
    exact .refl _
  | cons m markers ih =>
    obtain ⟨n, rest, rfl, own, others⟩ := List.map_eq_cons_iff.1 same
    obtain ⟨first, fresh⟩ := List.ne_and_not_mem_of_not_mem_cons fresh
    exact (alike_bindMarker_of_renamed h first.symm own).bind fun v =>
      (ih fresh others).bind fun vs => .refl _

theorem restWithPlaceholders_congr {rest others : List (Marker × String)}
    (same : others.map Prod.snd = rest.map Prod.snd) (ph : Placeholder) (n : Nat) :
    restWithPlaceholders ph n others = restWithPlaceholders ph n rest := by
  induction rest generalizing others n with
  | nil => rw [List.map_eq_nil_iff.1 same]
  | cons fragment rest ih =>
    obtain ⟨other, others, rfl, own, more⟩ := List.map_eq_cons_iff.1 same
    rw [restWithPlaceholders, restWithPlaceholders, own, ih more]

theorem withPlaceholders_congr {t u : MarkedText} (same : u.fragments = t.fragments)
    (ph : Placeholder) (n : Nat) : u.withPlaceholders ph n = t.withPlaceholders ph n := by
  obtain ⟨head, rest⟩ := List.cons.inj same
  rw [withPlaceholders, withPlaceholders, head, restWithPlaceholders_congr rest]

end MarkedText

namespace Node

variable {x y : String} {dialect : Dialect} {A B : Source}

theorem alike_holds_of_renamed (h : Renamed x y A B) {test other : Condition}
    (fresh : y ∉ test.expr.paths.map headSegment) (same : test.Renames x y other)
    (body more : List Node) :
    failures.Alike (holds A test body) (holds B other more) := by
  have tested : test.expr.eval test.functions A = other.expr.eval other.functions B := by
    rw [same.expr, same.functions, Expr.eval_rename]
    refine Expr.eval_congr test.expr fun path found => .of_eq (h path ?_)
    rintro rfl
    exact fresh (List.mem_map_of_mem found)
  rw [holds, holds, tested]
  refine .bind (.refl _) fun v => ?_
  cases v.resolved with
  | boolean b => exact .refl _
  | _ => exact .inr ⟨rfl, rfl⟩

theorem alike_printText_of_renamed (h : Renamed x y A B) {print : Print}
    (fresh : headSegment print.name ≠ y) : failures.Alike (printText A print)
      (printText B { print with name := renameHead x y print.name }) := by
  rw [printText, printText, ← h print.name fresh]
  cases A print.name with
  | error e => exact .inr ⟨rfl, rfl⟩
  | ok found =>
    cases found with
    | none => exact .inr ⟨rfl, rfl⟩
    | some v =>
      by_cases nil : v.isNil = true
      · simp only [if_pos nil]
        exact .inr ⟨rfl, rfl⟩
      · simp only [if_neg nil]
        exact .refl _

theorem alike_loopElements {loop twin : Loop} (same : A loop.collection = B twin.collection)
    (shown words : String) :
    failures.Alike (loopElements A loop shown) (loopElements B twin words) := by
  rw [loopElements, loopElements, same]
  cases B twin.collection with
  | error e => exact .refl _
  | ok found =>
    cases found with
    | none => exact .refl _
    | some v =>
      by_cases nil : v.resolved.isNil = true
      · simp only [if_pos nil]
        exact .refl _
      · simp only [if_neg nil]
        cases v.elements? with
        | none => exact .inr ⟨rfl, rfl⟩
        | some elements => exact .refl _

mutual

theorem lockstep_write_of_renames {x : String} {A B : Source} (h : Renamed x y A B)
    (plain : '.' ∉ y.toList) {node other : Node} (fresh : y ∉ mentioned node)
    (renamed : Renames x y node other) :
    failures.Lockstep (write ⟨dialect, A⟩ node)
      (write ⟨dialect, B⟩ other) := by
  cases renamed with
  | text fragments names =>
    exact lockstep_writeText (MarkedText.alike_bindAll_of_renamed h fresh names) fun n =>
      (MarkedText.withPlaceholders_congr fragments _ n).symm
  | @conditional test other body more same inner =>
    obtain ⟨own, fresh⟩ := not_or.1 (mt List.mem_append.2 fresh)
    exact lockstep_conditional (alike_holds_of_renamed h own same body more) fun _ =>
      lockstep_writeAll_of_renames h plain fresh inner
  | choose inner last =>
    obtain ⟨first, fresh⟩ := not_or.1 (mt List.mem_append.2 fresh)
    exact lockstep_writeBranches_of_renames h plain first inner
      (lockstep_writeAll_of_renames h plain fresh last)
  | @forEach loop body more item index inner =>
    obtain ⟨collection, fresh⟩ := List.ne_and_not_mem_of_not_mem_cons fresh
    obtain ⟨notItem, fresh⟩ := List.ne_and_not_mem_of_not_mem_cons fresh
    obtain ⟨notIndex, fresh⟩ := List.ne_and_not_mem_of_not_mem_cons fresh
    refine lockstep_writeLoop (alike_loopElements (h _ collection.symm) _ _) rfl rfl rfl ?_
    intro elements _ element _
    refine lockstep_writeAll_of_renames (h.bind plain ?_ ?_) plain fresh inner
    · exact List.lookup_eq_none_iff.2 (by simp [item.symm, index.symm])
    · exact List.lookup_eq_none_iff.2 (by simp [notItem, notIndex])
  | @shadow loop body bound =>
    obtain ⟨collection, fresh⟩ := List.ne_and_not_mem_of_not_mem_cons fresh
    refine lockstep_writeLoop (alike_loopElements (h _ collection.symm) _ _) rfl rfl rfl ?_
    intro elements _ element _
    have fresh : y ∉ mentionedAll body := fun found =>
      fresh (List.mem_cons_of_mem _ (List.mem_cons_of_mem _ found))
    refine lockstep_writeAll_of_renames (h.shadow ?_) plain fresh (renamesAll_self y body)
    rw [Option.isSome_iff_ne_none, ne_eq, List.lookup_eq_none_iff]
    rcases bound with rfl | rfl <;> simp
  | whereClause inner =>
    exact (lockstep_writeAll_of_renames h plain fresh inner).clause Clause.joins_writeWhere
      Clause.writeWhere_congr
  | setClause inner =>
    exact (lockstep_writeAll_of_renames h plain fresh inner).clause Clause.joins_writeSet
      Clause.writeSet_congr
  | @print print =>
    have other : headSegment print.name ≠ y := fun same => fresh (List.mem_singleton.2 same.symm)
    exact lockstep_writePrint (alike_printText_of_renamed h other) rfl rfl
  | sequence inner => exact lockstep_writeAll_of_renames h plain fresh inner

theorem lockstep_writeAll_of_renames {x : String} {A B : Source} (h : Renamed x y A B)
    (plain : '.' ∉ y.toList) {nodes others : List Node} (fresh : y ∉ mentionedAll nodes)
    (renamed : RenamesAll x y nodes others) :
    failures.Lockstep (writeAll ⟨dialect, A⟩ nodes)
      (writeAll ⟨dialect, B⟩ others) := by
  cases renamed with
  | nil => exact .refl _
  | cons first rest =>
    obtain ⟨own, fresh⟩ := not_or.1 (mt List.mem_append.2 fresh)
    exact (lockstep_write_of_renames h plain own first).andThen
      (lockstep_writeAll_of_renames h plain fresh rest)

theorem lockstep_writeBranches_of_renames {x : String} {A B : Source} (h : Renamed x y A B)
    (plain : '.' ∉ y.toList) {branches others : List (Condition × List Node)}
    (fresh : y ∉ mentionedInBranches branches) (renamed : RenamesBranches x y branches others)
    {w v : Printer → Printer} (last : failures.Lockstep w v) :
    failures.Lockstep (writeBranches ⟨dialect, A⟩ branches w)
      (writeBranches ⟨dialect, B⟩ others v) := by
  cases renamed with
  | nil => exact last
  | @cons test other body more rest others same inner following =>
    simp only [mentionedInBranches, List.mem_append, not_or] at fresh
    obtain ⟨⟨own, fresh⟩, later⟩ := fresh
    exact lockstep_branch (alike_holds_of_renamed h own same body more)
      (fun _ => lockstep_writeAll_of_renames h plain fresh inner)
      fun _ => lockstep_writeBranches_of_renames h plain later following last

end

/-- The name of a loop's item is not seen from outside. Under another one, which its body does not
mention, a loop fails where it failed, and otherwise appends the same text and the same values. -/
theorem write_forEach_of_renames {loop : Loop} {body more : List Node} {y : String}
    (plain : '.' ∉ y.toList) (fresh : y ∉ mentionedAll body)
    (renamed : RenamesAll loop.item y body more) (ctx : Context) {p : Printer}
    (ok : p.isFailed = false) :
    ((write ctx (.forEach loop body) p).isFailed = true
      ↔ (write ctx (.forEach { loop with item := y } more) p).isFailed = true)
    ∧ ((write ctx (.forEach loop body) p).isFailed = false → ∃ text values,
      write ctx (.forEach loop body) p = (p.write text).push values
      ∧ write ctx (.forEach { loop with item := y } more) p = (p.write text).push values) := by
  have step : failures.Lockstep (write ctx (.forEach loop body))
      (write ctx (.forEach { loop with item := y } more)) := by
    refine lockstep_writeLoop (alike_loopElements rfl _ _) rfl rfl rfl ?_
    intro elements _ element _
    have scope := Renamed.item plain ctx.source loop.item loop.index element.2 element.1
    exact lockstep_writeAll_of_renames scope plain fresh renamed
  rcases step p ok with same | ⟨here, there⟩
  · rw [← same]
    refine ⟨.rfl, fun going => ?_⟩
    obtain ⟨text, values, written⟩ := (writes_write ctx _).exists_eq ok going
    exact ⟨text, values, written, written⟩
  · refine ⟨⟨fun _ => there, fun _ => here⟩, fun going => ?_⟩
    rw [Printer.isFailed, here] at going
    cases going

theorem write_forEach_of_renames_rows :
    let row : Value := .map [("id", .integer 7), ("tags", .list [.integer 1, .integer 2])]
    let ctx : Context :=
      ⟨.postgres, .ofBindings [("rows", .list [row]), ("row", .integer 0)]⟩
    let test (tags : String) : Condition :=
      ⟨"len(" ++ tags ++ ") > 0",
        .binary .gt (.call "len" [.param tags]) (.literal (.integer 0)), .builtin⟩
    let inner (tags : String) : Node :=
      .forEach ⟨tags, "row", "index", "(", ",", ")"⟩ [.text ⟨"", [(⟨"row"⟩, "")]⟩]
    let body (id tags : String) : List Node := [.text ⟨"id = ", [(⟨id⟩, " AND tag IN ")]⟩,
      .conditional (test tags) [inner tags]]
    let loop : Loop := ⟨"rows", "row", "row", "", " OR ", ""⟩
    let plainly := write ctx (.forEach loop (body " row.id" "row.tags")) (.start 0)
    let renamed := write ctx (.forEach { loop with item := "r" } (body "r.id" "r.tags")) (.start 0)
    '.' ∉ "r".toList ∧ "r" ∉ mentionedAll (body " row.id" "row.tags")
      ∧ RenamesAll loop.item "r" (body " row.id" "row.tags") (body "r.id" "r.tags")
      ∧ (Printer.start 0).isFailed = false ∧ plainly.isFailed = false
      ∧ ∃ text values, plainly = ((Printer.start 0).write text).push values
        ∧ renamed = ((Printer.start 0).write text).push values := by
  intro row ctx test inner body loop plainly renamed
  have plain : '.' ∉ "r".toList := by decide
  have fresh : "r" ∉ mentionedAll (body " row.id" "row.tags") := by decide +kernel
  have names : [Marker.name ⟨"r.id"⟩] = [renameHead "row" "r" (Marker.name ⟨" row.id"⟩)] := by
    decide +kernel
  have tags : renameHead "row" "r" "row.tags" = "r.tags" := by decide +kernel
  have tested : (test "row.tags").Renames "row" "r" (test "r.tags") := by
    refine ⟨?_, rfl⟩
    simp only [test, Expr.rename, Expr.renameAll, tags]
  have loops : Renames "row" "r" (inner "row.tags") (inner "r.tags") := by
    rw [← tags]
    exact .shadow (.inl rfl)
  have follows : RenamesAll loop.item "r" (body " row.id" "row.tags") (body "r.id" "r.tags") :=
    .cons (.text rfl names) (.cons (.conditional tested (.cons loops .nil)) .nil)
  have going : plainly.isFailed = false := by decide +kernel
  exact ⟨plain, fresh, follows, rfl, going,
    (write_forEach_of_renames plain fresh follows ctx rfl).2 going⟩

end Node
end SqlTemplate
