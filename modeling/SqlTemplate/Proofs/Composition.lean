import SqlTemplate.Proofs.Splice

namespace SqlTemplate

namespace Printer

/-- Whether a way of writing only appends. What it appends, and its error, are those that it
leaves in a new printer with the same position of the next value. -/
structure Appends (w : Printer → Printer) : Prop where
  text : ∀ p : Printer, p.isFailed = false → (w p).text = p.text ++ (w (start p.index)).text
  values : ∀ p : Printer, p.isFailed = false →
    (w p).values = p.values ++ (w (start p.index)).values
  base : ∀ p : Printer, p.isFailed = false → (w p).base = p.base
  error? : ∀ p : Printer, p.isFailed = false → (w p).error? = (w (start p.index)).error?

/-- Whether an offset is in the range of a text and stands right behind `front`, so that it is
between two characters. -/
structure StandsBehind (p : Printer) (offset : Nat) (front : String) : Prop where
  length : Text.byteLength front.toList = offset
  inRange : offset ≤ p.length
  truncate : (p.truncate offset).text = front
  tail : front ++ String.ofList (p.tail offset) = p.text

theorem standsBehind_of_append {p : Printer} {front behind : String}
    (h : p.text = front ++ behind) : p.StandsBehind (Text.byteLength front.toList) front := by
  constructor
  · rfl
  · simp [Printer.length, h]
  · simp [Printer.truncate, h]
  · simp [Printer.tail, h]

end Printer

namespace Writes

variable {ph : Placeholder} {w : Printer → Printer} {d : Draft}

theorem appends (h : Writes ph w d) : Printer.Appends w := by
  constructor
  · intro p ok
    simp [h p ok, h.on_start]
  · intro p ok
    simp [h p ok, h.on_start]
  · intro p ok
    simp [h p ok]
  · intro p ok
    have unfailed : p.error? = none := by simpa [Printer.isFailed] using ok
    simp [h p ok, h.on_start, unfailed]

end Writes

namespace Draft

theorem finish_print_andThen (ph : Placeholder) (start : Nat) (d e : Draft) :
    ((d.andThen e).print ph start).finish = (do
      let (sql, values) ← (d.print ph start).finish
      let (more, others) ← (e.print ph (start + values.length)).finish
      return (sql ++ more, values ++ others)) := by
  cases h : d.error? with
  | some error =>
    rw [andThen_of_error h]
    simp [print, Printer.finish, h, bind, Except.bind]
  | none =>
    rw [andThen_of_none h]
    cases g : e.error? <;>
      simp [print, Printer.finish, h, g, bind, Except.bind, pure, Except.pure, values,
        Outline.fill_append]

end Draft

namespace Node

def renderFrom (ctx : Context) (start : Nat) (nodes : List Node) :
    Except Error (String × List Value) :=
  (writeAll ctx nodes (Printer.start start)).finish

theorem renderFrom_append (ctx : Context) (start : Nat) (nodes more : List Node) :
    renderFrom ctx start (nodes ++ more) = (do
      let (sql, values) ← renderFrom ctx start nodes
      let (rest, others) ← renderFrom ctx (start + values.length) more
      return (sql ++ rest, values ++ others)) := by
  simp only [renderFrom, finish_writeAll, draftAll_append]
  exact Draft.finish_print_andThen _ _ _ _

theorem forIn_write (ctx : Context) (nodes : List Node) (p : Printer) :
    (forIn nodes p fun node p => if (write ctx node p).isFailed = true
      then pure (ForInStep.done (write ctx node p))
      else pure (ForInStep.yield (write ctx node p)) : Id Printer) = writeAll ctx nodes p := by
  induction nodes generalizing p with
  | nil => rfl
  | cons node nodes ih =>
    rw [List.forIn_cons, writeAll]
    cases (write ctx node p).isFailed with
    | true => rfl
    | false => exact ih _

theorem renderEach_eq_render (ctx : Context) (nodes : List Node) :
    renderEach ctx nodes = render ctx nodes := by
  rw [render, ← forIn_write]
  rfl

theorem write_choose_empty (ctx : Context) (branches : List (Condition × List Node)) :
    write ctx (.choose branches [.sequence []]) = write ctx (.choose branches []) := by
  have same : writeAll ctx [.sequence []] = writeAll ctx [] := by
    funext p
    simp only [writeAll, write]
    exact ite_self p
  funext p
  rw [write, write, same]

theorem standsBehind_writeAll (ctx : Context) (body : List Node) (keyword : String) {p : Printer}
    (ok : p.isFailed = false) :
    (writeAll ctx body (p.write keyword)).StandsBehind p.length p.text
    ∧ (writeAll ctx body (p.write keyword)).StandsBehind (p.write keyword).length
      (p.write keyword).text := by
  have wrote := (writes_writeAll ctx body).appends.text (p.write keyword) ok
  constructor
  · apply Printer.standsBehind_of_append
    rw [wrote, Printer.text_write, String.append_assoc]
  · exact Printer.standsBehind_of_append wrote

/-- Rendering is compositional. Nodes only append, with an error as well as without, so that the
offsets of a clause hold; siblings render one behind the other up to the first error; a sequence
renders like its nodes in its place, but for an empty default in the notation of an error, which is
not shown any more when it is emptied; and it does not matter which loop goes through the nodes. -/
theorem rendering_compositional (ctx : Context) :
    (∀ node, Printer.Appends (write ctx node))
    ∧ (∀ nodes, Printer.Appends (writeAll ctx nodes))
    ∧ (∀ (body : List Node) (keyword : String) (p : Printer), p.isFailed = false →
      (writeAll ctx body (p.write keyword)).StandsBehind p.length p.text
      ∧ (writeAll ctx body (p.write keyword)).StandsBehind (p.write keyword).length
        (p.write keyword).text)
    ∧ (∀ (start : Nat) (nodes more : List Node), renderFrom ctx start (nodes ++ more) = (do
      let (sql, values) ← renderFrom ctx start nodes
      let (rest, others) ← renderFrom ctx (start + values.length) more
      return (sql ++ rest, values ++ others)))
    ∧ (∀ nodes more, Splice false nodes more → ∀ p : Printer, p.isFailed = false →
      writeAll ctx nodes p = writeAll ctx more p)
    ∧ (∀ emptied nodes more, Splice emptied nodes more → ∀ p : Printer, p.isFailed = false →
      (writeAll ctx nodes p).Thinned emptied (writeAll ctx more p))
    ∧ (∀ branches, write ctx (.choose branches [.sequence []]) = write ctx (.choose branches []))
    ∧ ∀ nodes, renderEach ctx nodes = render ctx nodes := by
  refine ⟨?_, ?_, ?_, ?_, ?_, ?_, ?_, ?_⟩
  · intro node
    exact (writes_write ctx node).appends
  · intro nodes
    exact (writes_writeAll ctx nodes).appends
  · intro body keyword p ok
    exact standsBehind_writeAll ctx body keyword ok
  · exact renderFrom_append ctx
  · intro nodes more h p ok
    exact writeAll_of_splice h ctx ok
  · intro emptied nodes more h p ok
    exact thinned_writeAll h ctx ok
  · exact write_choose_empty ctx
  · exact renderEach_eq_render ctx

theorem rendering_compositional_accent :
    let ctx : Context := ⟨.postgres, .ofBindings [("id", .integer 7)]⟩
    let condition : List Node := [.text ⟨"id = ", [(⟨"id"⟩, "")]⟩, .text ⟨" AND é", []⟩]
    let p : Printer := (Printer.start 3).write "SELECT é"
    let written := writeAll ctx condition (p.write Clause.whereKeyword)
    p.isFailed = false ∧ Splice false [.whereClause [.sequence condition]] [.whereClause condition]
    ∧ written.StandsBehind p.length p.text
    ∧ written.StandsBehind (p.write Clause.whereKeyword).length
      (p.write Clause.whereKeyword).text
    ∧ writeAll ctx [.whereClause [.sequence condition]] p
      = writeAll ctx [.whereClause condition] p := by
  intro ctx condition p written
  have spliced : Splice false [.whereClause [.sequence condition]] [.whereClause condition] :=
    .whereClause [] (.here condition [])
  obtain ⟨-, -, offsets, -, same, -, -, -⟩ := rendering_compositional ctx
  obtain ⟨outer, inner⟩ := offsets condition Clause.whereKeyword p rfl
  exact ⟨rfl, spliced, outer, inner, same _ _ spliced p rfl⟩

/-- The error of a test shows an empty sequence that is all of a default, but not a default that is
left without nodes. -/
theorem render_emptied_default :
    let ctx : Context := ⟨.postgres, .ofBindings []⟩
    let test : Condition := ⟨"nil", .literal .null, .builtin⟩
    let nodes : List Node := [.conditional test [.choose [] [.sequence []]]]
    let more : List Node := [.conditional test [.choose [] []]]
    Splice true nodes more
    ∧ render ctx nodes
      = .error (.nilTest "<if test=\"nil\"><choose><otherwise></otherwise></choose></if>")
    ∧ render ctx more = .error (.nilTest "<if test=\"nil\"><choose></choose></if>")
    ∧ render ctx nodes ≠ render ctx more := by
  intro ctx test nodes more
  have here : render ctx nodes
    = .error (.nilTest "<if test=\"nil\"><choose><otherwise></otherwise></choose></if>") := rfl
  have there : render ctx more = .error (.nilTest "<if test=\"nil\"><choose></choose></if>") := rfl
  refine ⟨.conditional test [] (.default [] [] (.here [] [])), here, there, ?_⟩
  rw [here, there]
  exact fun same => absurd (Error.nilTest.inj (Except.error.inj same)) (by decide)

end Node
end SqlTemplate
