import SqlTemplate.Proofs.Clause
import SqlTemplate.Template.Render

/-!
Drafts: what nodes write, before a dialect and a first number are chosen. Writing nodes into a
printer is the same as appending their draft, with an error as well as without.
-/

namespace SqlTemplate

structure Binding where
  source : Source
  marker : Marker
  value : Value
  bound : MarkedText.bindMarker source marker = .ok value

/-- What is written up to the first error, if there is one. -/
structure Draft where
  outline : Outline Binding
  error? : Option Error

namespace Draft

def empty : Draft := ⟨[], none⟩

def write (s : String) : Draft := ⟨Outline.literal s.toList, none⟩

def fail (e : Error) : Draft := ⟨[], some e⟩

def andThen (d e : Draft) : Draft :=
  match d.error? with
  | some _ => d
  | none => ⟨d.outline ++ e.outline, e.error?⟩

def clause (keyword : String) (cut : Outline Binding → Outline Binding) (d : Draft) : Draft :=
  match d.error? with
  | some _ => (write keyword).andThen d
  | none => ⟨cut d.outline, none⟩

def values (d : Draft) : List Value := d.outline.holes.map Binding.value

def print (ph : Placeholder) (start : Nat) (d : Draft) : Printer :=
  ⟨String.ofList (d.outline.fill ph start), d.values, start, d.error?⟩

theorem andThen_of_error {d : Draft} {e : Error} (failed : d.error? = some e) (next : Draft) :
    d.andThen next = d := by
  simp only [andThen, failed]

theorem andThen_of_none {d : Draft} (ok : d.error? = none) (next : Draft) :
    d.andThen next = ⟨d.outline ++ next.outline, next.error?⟩ := by
  simp only [andThen, ok]

theorem clause_of_error {d : Draft} {e : Error} (failed : d.error? = some e) (keyword : String)
    (cut : Outline Binding → Outline Binding) :
    d.clause keyword cut = (write keyword).andThen d := by
  simp only [clause, failed]

theorem clause_of_none {d : Draft} (ok : d.error? = none) (keyword : String)
    (cut : Outline Binding → Outline Binding) :
    d.clause keyword cut = ⟨cut d.outline, none⟩ := by
  simp only [clause, ok]

variable {ph : Placeholder} {p : Printer}

theorem isFailed_absorb_print (ok : p.isFailed = false) (d : Draft) :
    (p.absorb (d.print ph p.index)).isFailed = d.error?.isSome := by
  cases h : d.error? with
  | none => simpa [Printer.absorb, print, h] using ok
  | some e => simp [Printer.absorb, print, h]

theorem absorb_empty (p : Printer) : p.absorb (empty.print ph p.index) = p := by
  simp [Printer.absorb, print, empty, values, Outline.fill, Outline.holes, Printer.push,
    Printer.write]

theorem absorb_write (p : Printer) (s : String) :
    p.absorb ((write s).print ph p.index) = p.write s := by
  simp [Printer.absorb, print, write, values, Printer.push, Printer.write]

theorem absorb_fail (p : Printer) (e : Error) :
    p.absorb ((fail e).print ph p.index) = p.fail e := by
  simp [Printer.absorb, print, fail, values, Outline.fill, Outline.holes, Printer.push,
    Printer.write]

theorem index_absorb_print (d : Draft) :
    (p.absorb (d.print ph p.index)).index = p.index + d.outline.holes.length := by
  cases h : d.error? <;>
    simp [Printer.absorb, print, h, values, Printer.index, Printer.fail, Printer.push,
      Printer.write, Nat.add_assoc]

theorem absorb_andThen (d next : Draft) : p.absorb ((d.andThen next).print ph p.index)
    = if d.error?.isSome then p.absorb (d.print ph p.index)
      else (p.absorb (d.print ph p.index)).absorb
        (next.print ph (p.absorb (d.print ph p.index)).index) := by
  rw [index_absorb_print]
  cases h : d.error? with
  | some e => rw [andThen_of_error h, Option.isSome_some, if_pos rfl]
  | none =>
    rw [andThen_of_none h]
    cases e : next.error? <;>
      simp [Printer.absorb, print, h, e, values, Outline.fill_append, String.ofList_append,
        Printer.push, Printer.write, Printer.fail, String.append_assoc]

end Draft

namespace Node

def bindingsOf (source : Source) : List (Marker × String) → Except Error (Outline Binding)
  | [] => .ok []
  | (m, s) :: rest =>
    match bound : MarkedText.bindMarker source m with
    | .error e => .error e
    | .ok v => (bindingsOf source rest).map fun o =>
        .hole ⟨source, m, v, bound⟩ :: (Outline.literal s.toList ++ o)

def draftText (source : Source) (t : MarkedText) : Draft :=
  match bindingsOf source t.rest with
  | .ok o => ⟨Outline.literal t.head.toList ++ o, none⟩
  | .error e => .fail e

def draftPrint (source : Source) (print : Print) : Draft :=
  match printText source print with
  | .ok s => .write (print.before ++ s ++ print.after)
  | .error e => .fail e

def draftElements (source : Source) (loop : Loop) (body : Source → Draft) (isFirst : Bool) :
    List (Value × Value) → Draft
  | [] => .write loop.closing
  | (key, element) :: rest =>
    let separator := if isFirst then Draft.empty else Draft.write loop.separator
    (separator.andThen (body (loopSource source loop key element))).andThen
      (draftElements source loop body false rest)

def draftLoop (source : Source) (loop : Loop) (shown : String) (body : Source → Draft) : Draft :=
  match loopElements source loop shown with
  | .error e => .fail e
  | .ok [] => .empty
  | .ok elements => (Draft.write loop.opening).andThen
      (draftElements source loop body true elements)

mutual

def draft (source : Source) : Node → Draft
  | .text t => draftText source t
  | .conditional test body =>
    match holds source test body with
    | .ok true => draftAll source body
    | .ok false => .empty
    | .error e => .fail e
  | .choose branches otherwise =>
    draftBranches source branches (draftAll source otherwise)
  | .forEach loop body =>
    draftLoop source loop (Node.describe (.forEach loop body))
      fun inner => draftAll inner body
  | .whereClause body =>
    (draftAll source body).clause Clause.whereKeyword Outline.whereClause
  | .setClause body =>
    (draftAll source body).clause Clause.setKeyword Outline.setClause
  | .print print => draftPrint source print
  | .sequence body => draftAll source body

def draftAll (source : Source) : List Node → Draft
  | [] => .empty
  | node :: rest => (draft source node).andThen (draftAll source rest)

def draftBranches (source : Source) :
    List (Condition × List Node) → Draft → Draft
  | [], otherwise => otherwise
  | (test, body) :: rest, otherwise =>
    match holds source test body with
    | .ok true => draftAll source body
    | .ok false => draftBranches source rest otherwise
    | .error e => .fail e

end

end Node

/-- Whether a way of writing appends a draft to every printer that has not failed. -/
def Writes (ph : Placeholder) (w : Printer → Printer) (d : Draft) : Prop :=
  ∀ p : Printer, p.isFailed = false → w p = p.absorb (d.print ph p.index)

namespace Writes

variable {ph : Placeholder} {w v : Printer → Printer} {d e : Draft}

theorem start_absorb_print (n : Nat) (d : Draft) :
    (Printer.start n).absorb (d.print ph n) = d.print ph n := by
  cases h : d.error? <;>
    simp [Printer.start, Printer.absorb, Draft.print, h, Printer.push, Printer.write, Printer.fail]

theorem on_start (h : Writes ph w d) (n : Nat) : w (Printer.start n) = d.print ph n := by
  rw [h (Printer.start n) rfl]
  exact start_absorb_print n d

theorem id : Writes ph (fun p => p) Draft.empty := by
  intro p _
  exact (Draft.absorb_empty p).symm

theorem write (s : String) : Writes ph (fun p => p.write s) (Draft.write s) := by
  intro p _
  exact (Draft.absorb_write p s).symm

theorem fail (error : Error) : Writes ph (fun p => p.fail error) (Draft.fail error) := by
  intro p _
  exact (Draft.absorb_fail p error).symm

theorem andThen (first : Writes ph w d) (second : Writes ph v e) :
    Writes ph (fun p => if (w p).isFailed then w p else v (w p)) (d.andThen e) := by
  intro p ok
  simp only [first p ok, Draft.absorb_andThen, Draft.isFailed_absorb_print ok]
  cases h : d.error?.isSome with
  | true => rfl
  | false => exact second _ ((Draft.isFailed_absorb_print ok d).trans h)

theorem andThen_of_none (first : Writes ph w d) (second : Writes ph v e) (ok : d.error? = none) :
    Writes ph (fun p => v (w p)) (d.andThen e) := by
  intro p going
  have unfailed : (w p).isFailed = false := by
    rw [first p going, Draft.isFailed_absorb_print going, ok]
    rfl
  rw [← first.andThen second p going]
  simp only [unfailed, Bool.false_eq_true, if_false]

theorem child (h : Writes ph w d) : Writes ph (fun p => p.absorb (w p.child)) d := by
  intro p _
  exact congrArg p.absorb (h.on_start p.index)

theorem clause {clause : (Printer → Printer) → Printer → Printer} {keyword : String}
    {join : List Char → List Char} {cut : Outline Binding → Outline Binding}
    (h : Writes ph w d) (joins : Clause.Joins clause keyword join)
    (cuts : Outline.Cuts cut join) : Writes ph (clause w) (d.clause keyword cut) := by
  intro p ok
  have opened : (p.write keyword).isFailed = false := ok
  have wrote := h (p.write keyword) opened
  cases e : d.error? with
  | some error =>
    have failed : (w (p.write keyword)).isFailed = true := by
      rw [wrote, Draft.isFailed_absorb_print opened, e]
      rfl
    rw [joins.failed failed, wrote, Draft.clause_of_error e, Draft.absorb_andThen,
      Draft.absorb_write]
    rfl
  | none =>
    have behind : w (p.write keyword) = ((p.write keyword).write
        (String.ofList (d.outline.fill ph p.index))).push d.values := by
      rw [wrote]
      simp [Printer.absorb, Draft.print, e]
    rw [joins.written ok behind, Draft.clause_of_none e]
    simp [Printer.absorb, Draft.print, Draft.values, cuts.fill, cuts.holes]

theorem exists_eq (h : Writes ph w d) {p : Printer} (ok : p.isFailed = false)
    (going : (w p).isFailed = false) : ∃ text values, w p = (p.write text).push values := by
  rw [h p ok] at going ⊢
  rw [Draft.isFailed_absorb_print ok, Option.isSome_eq_false_iff,
    Option.isNone_iff_eq_none] at going
  refine ⟨String.ofList (d.outline.fill ph p.index), d.values, ?_⟩
  simp only [Printer.absorb, Draft.print, going]

end Writes

namespace Node

theorem bindingsOf_cons {source : Source} {m : Marker} {v : Value}
    (bound : MarkedText.bindMarker source m = .ok v) (s : String)
    (rest : List (Marker × String)) : bindingsOf source ((m, s) :: rest)
      = (bindingsOf source rest).map
        fun o => .hole ⟨source, m, v, bound⟩ :: (Outline.literal s.toList ++ o) := by
  rw [bindingsOf]
  split
  · next e unbound => exact absurd (bound.symm.trans unbound) (by simp)
  · next w found =>
    obtain rfl : v = w := Except.ok.inj (bound.symm.trans found)
    rfl

theorem bindingsOf_cons_of_error {source : Source} {m : Marker} {e : Error}
    (unbound : MarkedText.bindMarker source m = .error e) (s : String)
    (rest : List (Marker × String)) : bindingsOf source ((m, s) :: rest) = .error e := by
  rw [bindingsOf]
  split
  · next f failed =>
    obtain rfl : f = e := Except.error.inj (failed.symm.trans unbound)
    rfl
  · next v bound => exact absurd (unbound.symm.trans bound) (by simp)

theorem bindAll_eq (source : Source) (rest : List (Marker × String)) :
    MarkedText.bindAll source (rest.map Prod.fst)
      = (bindingsOf source rest).map fun o => o.holes.map Binding.value := by
  induction rest with
  | nil => rfl
  | cons fragment rest ih =>
    obtain ⟨m, s⟩ := fragment
    rw [List.map_cons, MarkedText.bindAll]
    cases bound : MarkedText.bindMarker source m with
    | error e =>
      rw [bindingsOf_cons_of_error bound]
      rfl
    | ok v =>
      rw [bindingsOf_cons bound, ih]
      cases bindingsOf source rest with
      | error e => rfl
      | ok o => simp [bind, Except.bind, pure, Except.pure, Except.map, Outline.holes]

theorem fill_bindingsOf {source : Source} {rest : List (Marker × String)} {o : Outline Binding}
    (h : bindingsOf source rest = .ok o) (ph : Placeholder) (n : Nat) :
    String.ofList (o.fill ph n) = MarkedText.restWithPlaceholders ph n rest := by
  induction rest generalizing o n with
  | nil =>
    cases h
    rfl
  | cons fragment rest ih =>
    obtain ⟨m, s⟩ := fragment
    cases bound : MarkedText.bindMarker source m with
    | error e =>
      rw [bindingsOf_cons_of_error bound] at h
      cases h
    | ok v =>
      rw [bindingsOf_cons bound] at h
      cases more : bindingsOf source rest with
      | error e =>
        rw [more] at h
        cases h
      | ok q =>
        rw [more] at h
        cases h
        rw [Outline.fill, Outline.fill_append, Outline.fill_literal, Outline.holes_literal,
          MarkedText.restWithPlaceholders, String.ofList_append, String.ofList_append,
          String.ofList_toList, String.ofList_toList, ← String.append_assoc]
        exact congrArg (ph.format n ++ s ++ ·) (ih more (n + 1))

variable {ctx : Context}

theorem writes_writeText (ctx : Context) (t : MarkedText) :
    Writes ctx.dialect.placeholder (writeText ctx t) (draftText ctx.source t) := by
  intro p ok
  have values := bindAll_eq ctx.source t.rest
  rw [writeText, MarkedText.bind, MarkedText.markers, values, draftText]
  cases h : bindingsOf ctx.source t.rest with
  | error e => exact (Draft.absorb_fail p e).symm
  | ok o =>
    have filled := fill_bindingsOf h ctx.dialect.placeholder p.index
    simp [Except.map, Printer.absorb, Draft.print, Draft.values, Outline.fill_append,
      String.ofList_append, filled, MarkedText.withPlaceholders]

theorem writes_writePrint (ctx : Context) (print : Print) :
    Writes ctx.dialect.placeholder (writePrint ctx print) (draftPrint ctx.source print) := by
  intro p ok
  rw [writePrint, draftPrint]
  cases printText ctx.source print with
  | error e => exact (Draft.absorb_fail p e).symm
  | ok s =>
    simp only [Printer.write_write]
    exact (Draft.absorb_write p _).symm

theorem writes_writeElements (loop : Loop) {body : Context → Printer → Printer}
    {drafted : Source → Draft}
    (inner : ∀ source, Writes ctx.dialect.placeholder (body { ctx with source })
      (drafted source))
    (isFirst : Bool) (elements : List (Value × Value)) :
    Writes ctx.dialect.placeholder (writeElements ctx loop body isFirst elements)
      (draftElements ctx.source loop drafted isFirst elements) := by
  induction elements generalizing isFirst with
  | nil => exact Writes.write loop.closing
  | cons element rest ih =>
    obtain ⟨key, element⟩ := element
    let separator := if isFirst then Draft.empty else Draft.write loop.separator
    have separated : Writes ctx.dialect.placeholder
        (fun p => if isFirst then p else p.write loop.separator) separator := by
      cases isFirst with
      | true => exact Writes.id
      | false => exact Writes.write loop.separator
    have unfailed : separator.error? = none := by cases isFirst <;> rfl
    have written := (inner (loopSource ctx.source loop key element)).child
    exact (separated.andThen_of_none written unfailed).andThen (ih false)

theorem writes_writeLoop {loop : Loop} {shown : String} {body : Context → Printer → Printer}
    {drafted : Source → Draft}
    (inner : ∀ source, Writes ctx.dialect.placeholder (body { ctx with source })
      (drafted source)) :
    Writes ctx.dialect.placeholder (writeLoop ctx loop shown body)
      (draftLoop ctx.source loop shown drafted) := by
  intro p ok
  rw [writeLoop, draftLoop]
  cases loopElements ctx.source loop shown with
  | error e => exact (Draft.absorb_fail p e).symm
  | ok elements =>
    cases elements with
    | nil => exact (Draft.absorb_empty p).symm
    | cons element rest =>
      have elements := writes_writeElements loop inner true (element :: rest)
      exact (Writes.write loop.opening).andThen_of_none elements rfl p ok

mutual

theorem writes_write (ctx : Context) (node : Node) :
    Writes ctx.dialect.placeholder (write ctx node) (draft ctx.source node) := by
  cases node with
  | text t => exact writes_writeText ctx t
  | conditional test body =>
    intro p ok
    rw [write, draft]
    cases holds ctx.source test body with
    | error e => exact Writes.fail e p ok
    | ok b =>
      cases b with
      | true => exact writes_writeAll ctx body p ok
      | false => exact Writes.id p ok
  | choose branches otherwise =>
    exact writes_writeBranches ctx branches (writes_writeAll ctx otherwise)
  | forEach loop body =>
    exact writes_writeLoop fun source => writes_writeAll { ctx with source } body
  | whereClause body =>
    exact (writes_writeAll ctx body).clause Clause.joins_writeWhere Outline.cuts_whereClause
  | setClause body =>
    exact (writes_writeAll ctx body).clause Clause.joins_writeSet Outline.cuts_setClause
  | print print => exact writes_writePrint ctx print
  | sequence body => exact writes_writeAll ctx body

theorem writes_writeAll (ctx : Context) (nodes : List Node) :
    Writes ctx.dialect.placeholder (writeAll ctx nodes)
      (draftAll ctx.source nodes) := by
  cases nodes with
  | nil => exact Writes.id
  | cons node rest => exact (writes_write ctx node).andThen (writes_writeAll ctx rest)

theorem writes_writeBranches (ctx : Context) (branches : List (Condition × List Node))
    {otherwise : Printer → Printer} {d : Draft}
    (last : Writes ctx.dialect.placeholder otherwise d) :
    Writes ctx.dialect.placeholder (writeBranches ctx branches otherwise)
      (draftBranches ctx.source branches d) := by
  cases branches with
  | nil => exact last
  | cons branch rest =>
    obtain ⟨test, body⟩ := branch
    intro p ok
    rw [writeBranches, draftBranches]
    cases holds ctx.source test body with
    | error e => exact Writes.fail e p ok
    | ok b =>
      cases b with
      | true => exact writes_writeAll ctx body p ok
      | false => exact writes_writeBranches ctx rest last p ok

end

theorem finish_writeAll (ctx : Context) (nodes : List Node) (start : Nat) :
    (writeAll ctx nodes (Printer.start start)).finish
      = ((draftAll ctx.source nodes).print ctx.dialect.placeholder start).finish := by
  rw [(writes_writeAll ctx nodes).on_start]

end Node
end SqlTemplate
