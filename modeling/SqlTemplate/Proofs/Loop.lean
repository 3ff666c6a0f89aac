import SqlTemplate.Proofs.Draft

namespace SqlTemplate

theorem Writes.absorb_child {ph : Placeholder} {w : Printer → Printer} {d : Draft}
    (h : Writes ph w d) {p : Printer} (ok : p.isFailed = false) :
    p.absorb (w p.child) = w p := (h.child p ok).trans (h p ok).symm

namespace Clause

variable {fragments others : Printer → Printer} {p : Printer}

theorem writeWhere_congr (h : fragments (p.write whereKeyword) = others (p.write whereKeyword)) :
    writeWhere fragments p = writeWhere others p := by
  simp only [writeWhere, h]

theorem writeSet_congr (h : fragments (p.write setKeyword) = others (p.write setKeyword)) :
    writeSet fragments p = writeSet others p := by
  simp only [writeSet, h]

end Clause

namespace Node

def writeElementsInPlace (ctx : Context) (loop : Loop) (body : Context → Printer → Printer)
    (isFirst : Bool) : List (Value × Value) → Printer → Printer
  | [], p => p.write loop.closing
  | (key, element) :: rest, p =>
    let separated := if isFirst then p else p.write loop.separator
    let scope := ctx.source.bind [(loop.item, element), (loop.index, key)]
    let written := body { ctx with source := scope } separated
    if written.isFailed then written else writeElementsInPlace ctx loop body false rest written

def writeLoopInPlace (ctx : Context) (loop : Loop) (shown : String)
    (body : Context → Printer → Printer) (p : Printer) : Printer :=
  match ctx.source loop.collection with
  | .error e => p.fail e
  | .ok none => p
  | .ok (some collection) =>
    if collection.resolved.isNil then p
    else match collection.elements? with
      | none => p.fail (.unsupportedCollection collection.resolved.kind shown)
      | some [] => p
      | some elements => writeElementsInPlace ctx loop body true elements (p.write loop.opening)

mutual

/-- Writes a node without a child printer for any round of any loop in it. -/
def writeInPlace (ctx : Context) : Node → Printer → Printer
  | .text t, p => writeText ctx t p
  | .conditional test body, p =>
    match holds ctx.source test body with
    | .ok true => writeAllInPlace ctx body p
    | .ok false => p
    | .error e => p.fail e
  | .choose branches otherwise, p =>
    writeBranchesInPlace ctx branches (writeAllInPlace ctx otherwise) p
  | .forEach loop body, p =>
    writeLoopInPlace ctx loop (Node.describe (.forEach loop body))
      (fun inner => writeAllInPlace inner body) p
  | .whereClause body, p => Clause.writeWhere (writeAllInPlace ctx body) p
  | .setClause body, p => Clause.writeSet (writeAllInPlace ctx body) p
  | .print print, p => writePrint ctx print p
  | .sequence body, p => writeAllInPlace ctx body p

def writeAllInPlace (ctx : Context) : List Node → Printer → Printer
  | [], p => p
  | node :: rest, p =>
    let written := writeInPlace ctx node p
    if written.isFailed then written else writeAllInPlace ctx rest written

def writeBranchesInPlace (ctx : Context) :
    List (Condition × List Node) → (Printer → Printer) → Printer → Printer
  | [], otherwise, p => otherwise p
  | (test, body) :: rest, otherwise, p =>
    match holds ctx.source test body with
    | .ok true => writeAllInPlace ctx body p
    | .ok false => writeBranchesInPlace ctx rest otherwise p
    | .error e => p.fail e

end

variable {ctx : Context} {loop : Loop} {body inPlace : Context → Printer → Printer} {p : Printer}

theorem writeElements_eq_inPlace
    (inner : ∀ (source : Source) {p : Printer}, p.isFailed = false →
      p.absorb (body { ctx with source } p.child) = inPlace { ctx with source } p)
    (isFirst : Bool) (elements : List (Value × Value)) (ok : p.isFailed = false) :
    writeElements ctx loop body isFirst elements p
      = writeElementsInPlace ctx loop inPlace isFirst elements p := by
  induction elements generalizing isFirst p with
  | nil => rfl
  | cons element rest ih =>
    obtain ⟨key, element⟩ := element
    have separated : (if isFirst then p else p.write loop.separator).isFailed = false := by
      cases isFirst <;> exact ok
    simp only [writeElements, writeElementsInPlace, loopSource, inner _ separated]
    generalize (if isFirst = true then p else p.write loop.separator) = p
    split
    · rfl
    · next going => exact ih false (Bool.eq_false_iff.2 going)

theorem writeLoop_eq_inPlace
    (inner : ∀ (source : Source) {p : Printer}, p.isFailed = false →
      p.absorb (body { ctx with source } p.child) = inPlace { ctx with source } p)
    (shown : String) (ok : p.isFailed = false) :
    writeLoop ctx loop shown body p = writeLoopInPlace ctx loop shown inPlace p := by
  rw [writeLoop, writeLoopInPlace, loopElements]
  cases ctx.source loop.collection with
  | error e => rfl
  | ok found =>
    cases found with
    | none => rfl
    | some collection =>
      cases empty : collection.resolved.isNil with
      | true => simp [empty]
      | false =>
        cases found : collection.elements? with
        | none => simp [empty, found]
        | some elements =>
          cases elements with
          | nil => simp [empty, found]
          | cons element rest =>
            simp only [empty, found, Bool.false_eq_true, if_false]
            exact writeElements_eq_inPlace inner true (element :: rest) ok

mutual

theorem write_eq_inPlace (ctx : Context) (node : Node) {p : Printer} (ok : p.isFailed = false) :
    write ctx node p = writeInPlace ctx node p := by
  cases node with
  | text t => rfl
  | conditional test body =>
    rw [write, writeInPlace]
    cases holds ctx.source test body with
    | error e => rfl
    | ok b =>
      cases b with
      | true => exact writeAll_eq_inPlace ctx body ok
      | false => rfl
  | choose branches otherwise =>
    exact writeBranches_eq_inPlace ctx branches ok (writeAll_eq_inPlace ctx otherwise ok)
  | forEach loop body =>
    apply writeLoop_eq_inPlace _ _ ok
    intro source p ok
    rw [(writes_writeAll { ctx with source } body).absorb_child ok]
    exact writeAll_eq_inPlace { ctx with source } body ok
  | whereClause body => exact Clause.writeWhere_congr (writeAll_eq_inPlace ctx body ok)
  | setClause body => exact Clause.writeSet_congr (writeAll_eq_inPlace ctx body ok)
  | print print => rfl
  | sequence body => exact writeAll_eq_inPlace ctx body ok

theorem writeAll_eq_inPlace (ctx : Context) (nodes : List Node) {p : Printer}
    (ok : p.isFailed = false) : writeAll ctx nodes p = writeAllInPlace ctx nodes p := by
  cases nodes with
  | nil => rfl
  | cons node rest =>
    simp only [writeAll, writeAllInPlace, write_eq_inPlace ctx node ok]
    split
    · rfl
    · next going => exact writeAll_eq_inPlace ctx rest (Bool.eq_false_iff.2 going)

theorem writeBranches_eq_inPlace (ctx : Context) (branches : List (Condition × List Node))
    {otherwise inPlace : Printer → Printer} {p : Printer} (ok : p.isFailed = false)
    (last : otherwise p = inPlace p) :
    writeBranches ctx branches otherwise p = writeBranchesInPlace ctx branches inPlace p := by
  cases branches with
  | nil => exact last
  | cons branch rest =>
    obtain ⟨test, body⟩ := branch
    rw [writeBranches, writeBranchesInPlace]
    cases holds ctx.source test body with
    | error e => rfl
    | ok b =>
      cases b with
      | true => exact writeAll_eq_inPlace ctx body ok
      | false => exact writeBranches_eq_inPlace ctx rest ok last

end

/-- A loop leaves its printer, with an error or without, as the loop does that writes every round
in place. This holds whether the loops in its body are rendered in place as well or not. -/
theorem write_forEach_inPlace (ctx : Context) (loop : Loop) (body : List Node) {p : Printer}
    (ok : p.isFailed = false) :
    write ctx (.forEach loop body) p
      = writeLoopInPlace ctx loop (describe (.forEach loop body))
        (fun inner => writeAll inner body) p
    ∧ write ctx (.forEach loop body) p
      = writeLoopInPlace ctx loop (describe (.forEach loop body))
        (fun inner => writeAllInPlace inner body) p := by
  constructor
  · apply writeLoop_eq_inPlace _ _ ok
    intro source p ok
    exact (writes_writeAll { ctx with source } body).absorb_child ok
  · exact write_eq_inPlace ctx (.forEach loop body) ok

theorem write_forEach_inPlace_ragged :
    let ctx : Context := ⟨.postgres,
      .ofBindings [("rows", .list [.list [.integer 1, .integer 2], .integer 3])]⟩
    let loop : Loop := ⟨"rows", "row", "i", "VALUES ", ", ", ";"⟩
    let body : List Node := [.whereClause [.text ⟨"AND i = ", [(⟨"i"⟩, " ")]⟩,
      .forEach ⟨"row", "v", "j", "(", ",", ")"⟩ [.text ⟨"", [(⟨"v"⟩, "")]⟩]]]
    let p : Printer := (Printer.start 4).write "INSERT "
    p.isFailed = false
    ∧ write ctx (.forEach loop body) p
      = writeLoopInPlace ctx loop (describe (.forEach loop body))
        (fun inner => writeAll inner body) p
    ∧ write ctx (.forEach loop body) p
      = writeLoopInPlace ctx loop (describe (.forEach loop body))
        (fun inner => writeAllInPlace inner body) p
    ∧ (write ctx (.forEach loop body) p).text
      = "INSERT VALUES  WHERE  i = $5 ($6,$7),  WHERE AND i = $8 " := by
  intro ctx loop body p
  obtain ⟨direct, nested⟩ := write_forEach_inPlace ctx loop body (p := p) rfl
  exact ⟨rfl, direct, nested, by decide +kernel⟩

end Node
end SqlTemplate
