import SqlTemplate.Proofs.Draft

namespace SqlTemplate

namespace Tree

/-- Whether a notation is the same as another one, or shows an empty default that is emptied out of
the other one. -/
inductive Thinned (emptied : Bool) : String → String → Prop
  | same (shown) : Thinned emptied shown shown
  | short (front behind) : emptied = true →
      Thinned emptied (front ++ element "otherwise" "" "" ++ behind) (front ++ behind)

namespace Thinned

variable {emptied : Bool} {shown words : String}

theorem eq (h : Thinned false shown words) : shown = words := by
  cases h with
  | same => rfl
  | short _ _ may => cases may

theorem append_left (h : Thinned emptied shown words) (s : String) :
    Thinned emptied (s ++ shown) (s ++ words) := by
  cases h with
  | same => exact .same (s ++ shown)
  | short front behind may =>
    have longer := Thinned.short (s ++ front) behind may
    simpa only [String.append_assoc] using longer

theorem append_right (h : Thinned emptied shown words) (s : String) :
    Thinned emptied (shown ++ s) (words ++ s) := by
  cases h with
  | same => exact .same (shown ++ s)
  | short front behind may =>
    have longer := Thinned.short front (behind ++ s) may
    simpa only [String.append_assoc] using longer

theorem element (h : Thinned emptied shown words) (tag attributes : String) :
    Thinned emptied (Tree.element tag attributes shown) (Tree.element tag attributes words) :=
  ((h.append_left _).append_right _).append_right _ |>.append_right _

end Thinned

end Tree

inductive Error.Thinned (emptied : Bool) : Error → Error → Prop
  | same (e) : Error.Thinned emptied e e
  | nilTest {shown words} : Tree.Thinned emptied shown words →
      Error.Thinned emptied (.nilTest shown) (.nilTest words)
  | nonBooleanTest {shown words} (kind) : Tree.Thinned emptied shown words →
      Error.Thinned emptied (.nonBooleanTest kind shown) (.nonBooleanTest kind words)
  | unsupportedCollection {shown words} (kind) : Tree.Thinned emptied shown words →
      Error.Thinned emptied (.unsupportedCollection kind shown) (.unsupportedCollection kind words)

theorem Error.Thinned.eq {e f : Error} (h : Error.Thinned false e f) : e = f := by
  cases h with
  | same => rfl
  | nilTest h | nonBooleanTest _ h | unsupportedCollection _ h => rw [h.eq]

inductive Error.ThinnedIn (emptied : Bool) {α : Type} : Except Error α → Except Error α → Prop
  | ok (a) : ThinnedIn emptied (.ok a) (.ok a)
  | error {e f} : Error.Thinned emptied e f → ThinnedIn emptied (.error e) (.error f)

structure Draft.Thinned (emptied : Bool) (d e : Draft) : Prop where
  outline : d.outline = e.outline
  error? : Option.Rel (Error.Thinned emptied) d.error? e.error?

namespace Draft.Thinned

variable {emptied : Bool} {d e d' e' : Draft}

theorem refl (d : Draft) : d.Thinned emptied d := by
  refine ⟨rfl, ?_⟩
  cases d.error? with
  | none => exact .none
  | some e => exact .some (.same e)

theorem fail {error fault : Error} (h : Error.Thinned emptied error fault) :
    (Draft.fail error).Thinned emptied (Draft.fail fault) := ⟨rfl, .some h⟩

theorem eq (h : d.Thinned false e) : d = e := by
  obtain ⟨outline, error?⟩ := h
  obtain ⟨o, a⟩ := d
  obtain ⟨q, b⟩ := e
  cases outline
  cases error? with
  | none => rfl
  | some same => rw [same.eq]

theorem ends (h : d.Thinned emptied e) : d.error? = none ∧ e.error? = none
    ∨ ∃ error fault, d.error? = some error ∧ e.error? = some fault := by
  have both := h.error?
  generalize d.error? = a, e.error? = b at both
  cases both with
  | none => exact .inl ⟨rfl, rfl⟩
  | some _ => exact .inr ⟨_, _, rfl, rfl⟩

theorem andThen (first : d.Thinned emptied e) (second : d'.Thinned emptied e') :
    (d.andThen d').Thinned emptied (e.andThen e') := by
  rcases first.ends with ⟨here, there⟩ | ⟨error, fault, here, there⟩
  · rw [andThen_of_none here, andThen_of_none there, first.outline, second.outline]
    exact ⟨rfl, second.error?⟩
  · rw [andThen_of_error here, andThen_of_error there]
    exact first

theorem clause (h : d.Thinned emptied e) (keyword : String)
    (cut : Outline Binding → Outline Binding) :
    (d.clause keyword cut).Thinned emptied (e.clause keyword cut) := by
  rcases h.ends with ⟨here, there⟩ | ⟨error, fault, here, there⟩
  · rw [clause_of_none here, clause_of_none there, h.outline]
    exact refl _
  · rw [clause_of_error here, clause_of_error there]
    exact (refl (Draft.write keyword)).andThen h

end Draft.Thinned

structure Printer.Thinned (emptied : Bool) (p q : Printer) : Prop where
  text : p.text = q.text
  values : p.values = q.values
  base : p.base = q.base
  error? : Option.Rel (Error.Thinned emptied) p.error? q.error?

theorem Draft.Thinned.absorb {emptied : Bool} {d e : Draft} (h : d.Thinned emptied e)
    {p : Printer} (ok : p.isFailed = false) (ph : Placeholder) (n : Nat) :
    (p.absorb (d.print ph n)).Thinned emptied (p.absorb (e.print ph n)) := by
  have going : p.error? = none := by simpa [Printer.isFailed] using ok
  constructor
  · simp [Draft.print, h.outline]
  · simp [Draft.print, Draft.values, h.outline]
  · simp
  · simpa [Draft.print, going] using h.error?

theorem Draft.andThen_assoc (d e f : Draft) :
    (d.andThen e).andThen f = d.andThen (e.andThen f) := by
  cases h : d.error? with
  | some error => rw [andThen_of_error h, andThen_of_error h, andThen_of_error h]
  | none =>
    rw [andThen_of_none h, andThen_of_none h]
    cases g : e.error? <;> simp [andThen, g]

namespace Node

theorem draftAll_append (source : Source) (nodes more : List Node) :
    draftAll source (nodes ++ more)
      = (draftAll source nodes).andThen (draftAll source more) := by
  induction nodes with
  | nil => rfl
  | cons node nodes ih => rw [List.cons_append, draftAll, draftAll, ih, Draft.andThen_assoc]

theorem thinned_holds {emptied : Bool} {nodes more : List Node}
    (shown : Tree.Thinned emptied (describeAll nodes) (describeAll more)) (source : Source)
    (test : Condition) :
    Error.ThinnedIn emptied (holds source test nodes) (holds source test more) := by
  have element : Tree.Thinned emptied (describe (.conditional test nodes))
      (describe (.conditional test more)) := shown.element "if" _
  rw [holds, holds]
  cases test.expr.eval test.functions source with
  | error e => exact .error (.same e)
  | ok v =>
    simp only [bind, Except.bind]
    split
    · exact .ok _
    · exact .error (.nilTest element)
    · exact .error (.nonBooleanTest _ element)

theorem thinned_loopElements {emptied : Bool} {shown words : String}
    (h : Tree.Thinned emptied shown words) (source : Source) (loop : Loop) :
    Error.ThinnedIn emptied (loopElements source loop shown) (loopElements source loop words) := by
  rw [loopElements, loopElements]
  cases source loop.collection with
  | error e => exact .error (.same e)
  | ok found =>
    cases found with
    | none => exact .ok _
    | some v =>
      dsimp only
      split
      · exact .ok _
      · split
        · exact .error (.unsupportedCollection _ h)
        · exact .ok _

theorem thinned_draftElements {emptied : Bool} {source : Source} {loop : Loop}
    {body other : Source → Draft} (inner : ∀ source, (body source).Thinned emptied (other source))
    (isFirst : Bool) (elements : List (Value × Value)) :
    (draftElements source loop body isFirst elements).Thinned emptied
      (draftElements source loop other isFirst elements) := by
  induction elements generalizing isFirst with
  | nil => exact .refl _
  | cons element rest ih =>
    obtain ⟨key, element⟩ := element
    exact ((Draft.Thinned.refl _).andThen (inner _)).andThen (ih false)

theorem thinned_draftLoop {emptied : Bool} {shown words : String} {body other : Source → Draft}
    (h : Tree.Thinned emptied shown words)
    (inner : ∀ source, (body source).Thinned emptied (other source)) (source : Source)
    (loop : Loop) :
    (draftLoop source loop shown body).Thinned emptied (draftLoop source loop words other) := by
  have elements := thinned_loopElements h source loop
  rw [draftLoop, draftLoop]
  generalize loopElements source loop shown = found, loopElements source loop words = others
    at elements
  cases elements with
  | error failed => exact .fail failed
  | ok elements =>
    cases elements with
    | nil => exact .refl _
    | cons element rest =>
      exact (Draft.Thinned.refl _).andThen (thinned_draftElements inner true (element :: rest))

/-- Whether siblings can stand for others wherever these stand, but for what errors show of them. -/
structure Interchangeable (emptied : Bool) (nodes more : List Node) : Prop where
  describeAll : Tree.Thinned emptied (describeAll nodes) (describeAll more)
  draftAll : ∀ source, (draftAll source nodes).Thinned emptied (draftAll source more)

namespace Interchangeable

variable {emptied : Bool} {nodes more : List Node}

theorem refl (nodes : List Node) : Interchangeable emptied nodes nodes :=
  ⟨.same _, fun _ => .refl _⟩

theorem cons (node : Node) (h : Interchangeable emptied nodes more) :
    Interchangeable emptied (node :: nodes) (node :: more) :=
  ⟨h.describeAll.append_left _, fun source => (Draft.Thinned.refl _).andThen (h.draftAll source)⟩

theorem of_node {node other : Node} (shown : Tree.Thinned emptied (describe node) (describe other))
    (drafted : ∀ source, (draft source node).Thinned emptied (draft source other))
    (after : List Node) : Interchangeable emptied (node :: after) (other :: after) :=
  ⟨shown.append_right _, fun source => (drafted source).andThen (.refl _)⟩

theorem conditional (h : Interchangeable emptied nodes more) (test : Condition)
    (after : List Node) :
    Interchangeable emptied (.conditional test nodes :: after)
      (.conditional test more :: after) := by
  refine of_node (h.describeAll.element "if" _) ?_ after
  intro source
  have held := thinned_holds h.describeAll source test
  rw [draft, draft]
  generalize holds source test nodes = here, holds source test more = there at held
  cases held with
  | error failed => exact .fail failed
  | ok b =>
    cases b with
    | true => exact h.draftAll source
    | false => exact .refl _

theorem describeBranches (h : Interchangeable emptied nodes more) (test : Condition)
    (before behind : List (Condition × List Node)) :
    Tree.Thinned emptied
      (Tree.describeBranches MarkedText.source Condition.source
        (before ++ (test, nodes) :: behind))
      (Tree.describeBranches MarkedText.source Condition.source
        (before ++ (test, more) :: behind)) := by
  induction before with
  | nil => exact (h.describeAll.element "when" _).append_right _
  | cons branch before ih => exact ih.append_left _

theorem draftBranches (h : Interchangeable emptied nodes more) (test : Condition)
    (before behind : List (Condition × List Node)) (source : Source) (d : Draft) :
    (draftBranches source (before ++ (test, nodes) :: behind) d).Thinned emptied
      (draftBranches source (before ++ (test, more) :: behind) d) := by
  induction before with
  | nil =>
    have held := thinned_holds h.describeAll source test
    rw [List.nil_append, List.nil_append, Node.draftBranches, Node.draftBranches]
    generalize holds source test nodes = here, holds source test more = there at held
    cases held with
    | error failed => exact .fail failed
    | ok b =>
      cases b with
      | true => exact h.draftAll source
      | false => exact .refl _
  | cons branch before ih =>
    rw [List.cons_append, List.cons_append, Node.draftBranches, Node.draftBranches]
    cases holds source branch.1 branch.2 with
    | error e => exact .refl _
    | ok b =>
      cases b with
      | true => exact .refl _
      | false => exact ih

theorem branch (h : Interchangeable emptied nodes more) (test : Condition)
    (before behind : List (Condition × List Node)) (otherwise after : List Node) :
    Interchangeable emptied (.choose (before ++ (test, nodes) :: behind) otherwise :: after)
      (.choose (before ++ (test, more) :: behind) otherwise :: after) := by
  refine of_node ?_ ?_ after
  · exact ((h.describeBranches test before behind).append_right _).element "choose" _
  · exact fun source => h.draftBranches test before behind source _

theorem draftBranches_default {d e : Draft} (h : d.Thinned emptied e) (source : Source)
    (branches : List (Condition × List Node)) :
    (Node.draftBranches source branches d).Thinned emptied
      (Node.draftBranches source branches e) := by
  induction branches with
  | nil => exact h
  | cons branch rest ih =>
    rw [Node.draftBranches, Node.draftBranches]
    cases holds source branch.1 branch.2 with
    | error e => exact .refl _
    | ok b =>
      cases b with
      | true => exact .refl _
      | false => exact ih

theorem default (h : Interchangeable emptied nodes more) (present : nodes ≠ [])
    (there : more ≠ []) (branches : List (Condition × List Node)) (after : List Node) :
    Interchangeable emptied (.choose branches nodes :: after)
      (.choose branches more :: after) := by
  refine of_node ?_ (fun source => draftBranches_default (h.draftAll source) source branches) after
  have shown := ((h.describeAll.element "otherwise" "").append_left
    (Tree.describeBranches MarkedText.source Condition.source branches)).element "choose" ""
  simpa only [describe, Node.describeAll, Tree.describe, List.isEmpty_eq_false_iff.2 present,
    List.isEmpty_eq_false_iff.2 there, Bool.false_eq_true, if_false] using shown

theorem emptied_default (branches : List (Condition × List Node)) (after : List Node) :
    Interchangeable true (.choose branches [.sequence []] :: after)
      (.choose branches [] :: after) := by
  have written (source : Source) : (Node.draftAll source [.sequence []]).Thinned true
      (Node.draftAll source []) := .refl Draft.empty
  refine of_node ?_ (fun source => draftBranches_default (written source) source branches) after
  let front := Tree.describeBranches MarkedText.source Condition.source branches
  have emptier : Tree.Thinned true (front ++ Tree.element "otherwise" "" "" ++ "") (front ++ "") :=
    .short front "" rfl
  have shown := emptier.element "choose" ""
  simpa [describe, Tree.describe, Tree.describeAll] using shown

theorem forEach (h : Interchangeable emptied nodes more) (loop : Loop) (after : List Node) :
    Interchangeable emptied (.forEach loop nodes :: after) (.forEach loop more :: after) := by
  have shown : Tree.Thinned emptied (describe (.forEach loop nodes))
      (describe (.forEach loop more)) := h.describeAll.element "foreach" _
  exact of_node shown (fun source => thinned_draftLoop shown h.draftAll source loop) after

theorem whereClause (h : Interchangeable emptied nodes more) (after : List Node) :
    Interchangeable emptied (.whereClause nodes :: after) (.whereClause more :: after) :=
  of_node (h.describeAll.element "where" _) (fun source => (h.draftAll source).clause _ _) after

theorem setClause (h : Interchangeable emptied nodes more) (after : List Node) :
    Interchangeable emptied (.setClause nodes :: after) (.setClause more :: after) :=
  of_node (h.describeAll.element "set" _) (fun source => (h.draftAll source).clause _ _) after

theorem sequence (h : Interchangeable emptied nodes more) (after : List Node) :
    Interchangeable emptied (.sequence nodes :: after) (.sequence more :: after) :=
  of_node h.describeAll h.draftAll after

theorem unfold (body after : List Node) :
    Interchangeable emptied (.sequence body :: after) (body ++ after) := by
  constructor
  · have shown := Tree.describeAll_append MarkedText.source Condition.source body after
    rw [Node.describeAll, Node.describeAll, shown]
    exact .same _
  · intro source
    rw [draftAll_append]
    exact .refl _

end Interchangeable

/-- `Splice emptied nodes more`: the second list comes from the first one when the nodes of one
sequence, at any depth, are put in its place. It is told whether a default is emptied by it. -/
inductive Splice : Bool → List Node → List Node → Prop
  | here (body after) : Splice false (.sequence body :: after) (body ++ after)
  | behind {emptied nodes more} (node) : Splice emptied nodes more →
      Splice emptied (node :: nodes) (node :: more)
  | conditional {emptied nodes more} (test after) : Splice emptied nodes more →
      Splice emptied (.conditional test nodes :: after) (.conditional test more :: after)
  | branch {emptied nodes more} (before test behind otherwise after) : Splice emptied nodes more →
      Splice emptied (.choose (before ++ (test, nodes) :: behind) otherwise :: after)
        (.choose (before ++ (test, more) :: behind) otherwise :: after)
  | default {emptied nodes more} (branches after) : Splice emptied nodes more →
      Splice (emptied || more.isEmpty) (.choose branches nodes :: after)
        (.choose branches more :: after)
  | forEach {emptied nodes more} (loop after) : Splice emptied nodes more →
      Splice emptied (.forEach loop nodes :: after) (.forEach loop more :: after)
  | whereClause {emptied nodes more} (after) : Splice emptied nodes more →
      Splice emptied (.whereClause nodes :: after) (.whereClause more :: after)
  | setClause {emptied nodes more} (after) : Splice emptied nodes more →
      Splice emptied (.setClause nodes :: after) (.setClause more :: after)
  | sequence {emptied nodes more} (after) : Splice emptied nodes more →
      Splice emptied (.sequence nodes :: after) (.sequence more :: after)

namespace Splice

variable {emptied : Bool} {nodes more : List Node}

theorem ne_nil (h : Splice emptied nodes more) : nodes ≠ [] := by
  cases h <;> exact List.cons_ne_nil _ _

theorem eq_of_nil (h : Splice emptied nodes more) (none : more = []) : nodes = [.sequence []] := by
  cases h with
  | here body after =>
    obtain ⟨rfl, rfl⟩ := List.append_eq_nil_iff.1 none
    rfl
  | _ => cases none

theorem interchangeable (h : Splice emptied nodes more) : Interchangeable emptied nodes more := by
  induction h with
  | here body after => exact .unfold body after
  | behind node _ ih => exact ih.cons node
  | conditional test after _ ih => exact ih.conditional test after
  | branch before test behind otherwise after _ ih =>
    exact ih.branch test before behind otherwise after
  | @default emptied nodes more branches after h ih =>
    cases more with
    | nil =>
      obtain rfl := h.eq_of_nil rfl
      rw [List.isEmpty_nil, Bool.or_true]
      exact .emptied_default branches after
    | cons node rest =>
      rw [List.isEmpty_cons, Bool.or_false]
      exact ih.default h.ne_nil (List.cons_ne_nil node rest) branches after
  | forEach loop after _ ih => exact ih.forEach loop after
  | whereClause after _ ih => exact ih.whereClause after
  | setClause after _ ih => exact ih.setClause after
  | sequence after _ ih => exact ih.sequence after

end Splice

theorem thinned_writeAll {emptied : Bool} {nodes more : List Node} (h : Splice emptied nodes more)
    (ctx : Context) {p : Printer} (ok : p.isFailed = false) :
    (writeAll ctx nodes p).Thinned emptied (writeAll ctx more p) := by
  rw [writes_writeAll ctx nodes p ok, writes_writeAll ctx more p ok]
  exact (h.interchangeable.draftAll ctx.source).absorb ok _ _

theorem writeAll_of_splice {nodes more : List Node} (h : Splice false nodes more) (ctx : Context)
    {p : Printer} (ok : p.isFailed = false) : writeAll ctx nodes p = writeAll ctx more p := by
  rw [writes_writeAll ctx nodes p ok, writes_writeAll ctx more p ok,
    (h.interchangeable.draftAll ctx.source).eq]

end Node
end SqlTemplate
