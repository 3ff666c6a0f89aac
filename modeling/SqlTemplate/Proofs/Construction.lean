import SqlTemplate.Proofs.Calls
import SqlTemplate.Proofs.Grammar
import SqlTemplate.Proofs.Markers
import SqlTemplate.Statement

namespace SqlTemplate

namespace Error

def isConstruction : Error → Bool
  | .emptyTest | .emptyConditional | .emptyLoop | .emptyCollectionName | .emptyPrintName
  | .testSyntax _ _ _ | .unknownFunction _ | .unterminatedMarker _ _ | .emptyMarker _ _
  | .unknownDialect _ => true
  | _ => false

def isRendering : Error → Bool
  | .parameterNotFound _ | .nilTest _ | .nonBooleanTest _ _ | .unsupportedCollection _ _
  | .printLookup _ _ | .printMissing _ | .function _ _ | .evaluation _ | .format _ _ => true
  | _ => false

theorem isConstruction_of_isRendering {e : Error} (h : e.isRendering = true) :
    e.isConstruction = false := by
  cases e <;> first | rfl | cases h

end Error

def FailsOnly {α : Type} (allowed : Error → Prop) (x : Except Error α) : Prop :=
  ∀ e, x = .error e → allowed e

namespace FailsOnly

variable {α β : Type} {allowed : Error → Prop}

theorem ok (a : α) : FailsOnly allowed (.ok a) := nofun

theorem error {e : Error} (h : allowed e) : FailsOnly (α := α) allowed (.error e) := by
  rintro _ ⟨⟩
  exact h

theorem bind {x : Except Error α} {f : α → Except Error β} (first : FailsOnly allowed x)
    (next : ∀ a, FailsOnly allowed (f a)) : FailsOnly allowed (x >>= f) := by
  cases x with
  | error e => exact error (first e rfl)
  | ok a => exact next a

end FailsOnly

def Error.IsOfFunction (name : String) (e : Error) : Prop := ∃ fault, e = .function name fault

namespace Function

theorem failsOnly_sizeOfFirst (name : String) (args : List Value) :
    FailsOnly (Error.IsOfFunction name) (sizeOfFirst name args) := by
  cases args with
  | nil => exact .error ⟨_, rfl⟩
  | cons v rest =>
    have first : sizeOfFirst name (v :: rest) = size name v.resolved := rfl
    rw [first, size.eq_def]
    split
    · exact .ok _
    · exact .ok _
    · exact .ok _
    · exact .ok _
    · exact .error ⟨_, rfl⟩

theorem failsOnly_absences (name : String) (position : Nat) (args : List Value) :
    FailsOnly (Error.IsOfFunction name) (absences name position args) := by
  induction args generalizing position with
  | nil => exact .ok []
  | cons v rest ih =>
    rw [absences]
    split
    · exact .error ⟨_, rfl⟩
    · exact (ih (position + 1)).bind fun _ => .ok _

theorem failsOnly_allAbsent (name : String) (wanted : Bool) (args : List Value) :
    FailsOnly (Error.IsOfFunction name) (allAbsent name wanted args) := by
  cases args with
  | nil => exact .error ⟨_, rfl⟩
  | cons v rest => exact (failsOnly_absences name 0 (v :: rest)).bind fun _ => .ok _

end Function

theorem Registry.failsOnly_builtin {name : String} {f : Function}
    (h : builtin.get? name = some f) (args : List Value) :
    FailsOnly (Error.IsOfFunction name) (f args) := by
  have entry : (name, f) ∈ builtin.functions := by
    obtain ⟨before, behind, same, -⟩ := List.lookup_eq_some_iff.1 h
    rw [same]
    exact List.mem_append_right _ List.mem_cons_self
  simp only [builtin, List.mem_cons, Prod.mk.injEq, List.not_mem_nil, or_false] at entry
  rcases entry with ⟨rfl, rfl⟩ | ⟨rfl, rfl⟩ | ⟨rfl, rfl⟩ | ⟨rfl, rfl⟩ | ⟨rfl, rfl⟩
  · exact (Function.failsOnly_sizeOfFirst _ args).bind fun _ => .ok _
  · exact (Function.failsOnly_sizeOfFirst _ args).bind fun _ => .ok _
  · exact (Function.failsOnly_sizeOfFirst _ args).bind fun _ => .ok _
  · exact Function.failsOnly_allAbsent _ _ args
  · exact Function.failsOnly_allAbsent _ _ args

structure Admits (allowed : Error → Prop) (functions : Registry) (source : Source) : Prop where
  rendering : ∀ {e : Error}, e.isRendering = true → allowed e
  function : ∀ {name f}, functions.get? name = some f → ∀ args, FailsOnly allowed (f args)
  source : ∀ name, FailsOnly allowed (source name)

namespace Admits

variable {allowed : Error → Prop} {functions : Registry} {source : Source}

theorem bind (h : Admits allowed functions source) (bindings : List (String × Value)) :
    Admits allowed functions (source.bind bindings) := by
  refine ⟨h.rendering, h.function, ?_⟩
  intro name
  cases found : bindings.lookup (Text.headSegment name) with
  | some v =>
    rw [Source.bind_of_lookup found]
    exact .ok _
  | none =>
    rw [Source.bind_of_lookup_none found]
    exact h.source name

theorem evaluation (h : Admits allowed functions source) {α : Type} (fault : EvaluationFault) :
    FailsOnly (α := α) allowed (.error (.evaluation fault)) := .error (h.rendering rfl)

theorem checkedInteger (h : Admits allowed functions source) (n : Int) :
    FailsOnly allowed (checkedInteger n) := by
  rw [SqlTemplate.checkedInteger]
  split
  · exact .ok _
  · exact h.evaluation _

theorem truth (h : Admits allowed functions source) (operator : Connective) (v : Value) :
    FailsOnly allowed (truth operator v) := by
  rw [SqlTemplate.truth]
  split
  · exact .ok _
  · exact h.evaluation _

theorem negate (h : Admits allowed functions source) (v : Value) :
    FailsOnly allowed (negate v) := by
  rw [SqlTemplate.negate.eq_def]
  split
  · exact h.checkedInteger _
  · exact .ok _
  · exact .ok _
  · exact h.evaluation _

theorem ordered (h : Admits allowed functions source) (p : Ordering → Bool) (a b : Value) :
    FailsOnly allowed (ordered p a b) := by
  rw [SqlTemplate.ordered]
  split
  · exact .ok _
  · exact h.evaluation _

theorem remainder (h : Admits allowed functions source) (a b : Int) :
    FailsOnly allowed (remainder a b) := by
  rw [SqlTemplate.remainder]
  split
  · exact h.evaluation _
  · exact .ok _

theorem realArithmetic (h : Admits allowed functions source) (op : BinaryOp)
    (f : Binary64 → Binary64 → Binary64) (a b : Value) :
    FailsOnly allowed (realArithmetic op f a b) := by
  rw [SqlTemplate.realArithmetic]
  split
  · exact .ok _
  · exact h.evaluation _

theorem apply (h : Admits allowed functions source) (op : BinaryOp) (a b : Value) :
    FailsOnly allowed (op.apply a b) := by
  cases op with
  | or =>
    refine (h.truth .or a).bind fun holds => ?_
    cases holds with
    | true => exact .ok _
    | false => exact (h.truth .or b).bind fun _ => .ok _
  | and =>
    refine (h.truth .and a).bind fun holds => ?_
    cases holds with
    | true => exact (h.truth .and b).bind fun _ => .ok _
    | false => exact .ok _
  | eq | notEq => exact .ok _
  | lt | ltEq | gt | gtEq => exact h.ordered _ a b
  | add =>
    rw [BinaryOp.apply, addValues.eq_def]
    split
    · exact .ok _
    · exact h.checkedInteger _
    · exact h.realArithmetic _ _ _ _
  | sub =>
    rw [BinaryOp.apply, subValues.eq_def]
    split
    · exact h.checkedInteger _
    · exact h.realArithmetic _ _ _ _
  | mul =>
    rw [BinaryOp.apply, mulValues.eq_def]
    split
    · exact h.checkedInteger _
    · exact h.realArithmetic _ _ _ _
  | div => exact h.realArithmetic _ _ a b
  | mod =>
    rw [BinaryOp.apply, modValues.eq_def]
    split
    · exact h.remainder _ _
    · exact h.realArithmetic _ _ _ _

end Admits

namespace Expr

variable {allowed : Error → Prop} {functions : Registry} {source : Source}

mutual

theorem failsOnly_eval (h : Admits allowed functions source) (e : Expr)
    (known : ∀ name ∈ e.calls, functions.contains name = true) :
    FailsOnly allowed (e.eval functions source) := by
  cases e with
  | literal v =>
    rw [eval]
    exact .ok v
  | param path =>
    rw [eval]
    exact (h.source path).bind fun _ => .ok _
  | call name args =>
    obtain ⟨f, found⟩ := Option.isSome_iff_exists.1 (known name List.mem_cons_self)
    rw [eval, found]
    have inner := failsOnly_evalAll h args fun name found =>
      known name (List.mem_cons_of_mem _ found)
    exact inner.bind (h.function found)
  | unary op e =>
    have inner := failsOnly_eval h e known
    cases op with
    | not =>
      rw [eval]
      exact inner.bind fun v => (h.truth .not v).bind fun _ => .ok _
    | neg =>
      rw [eval]
      exact inner.bind fun v => h.negate v.resolved
  | binary op l r =>
    have left := failsOnly_eval h l fun name found => known name (List.mem_append_left _ found)
    have right := failsOnly_eval h r fun name found => known name (List.mem_append_right _ found)
    cases op with
    | and =>
      rw [eval]
      refine left.bind fun v => (h.truth .and v).bind fun holds => ?_
      cases holds with
      | true => exact right.bind fun w => (h.truth .and w).bind fun _ => .ok _
      | false => exact .ok _
    | or =>
      rw [eval]
      refine left.bind fun v => (h.truth .or v).bind fun holds => ?_
      cases holds with
      | true => exact .ok _
      | false => exact right.bind fun w => (h.truth .or w).bind fun _ => .ok _
    | eq | notEq | lt | ltEq | gt | gtEq | add | sub | mul | div | mod =>
      simp only [eval]
      exact left.bind fun a => right.bind fun b => h.apply _ a.resolved b.resolved
  | within e es =>
    have needle := failsOnly_eval h e fun name found => known name (List.mem_append_left _ found)
    rw [eval]
    exact needle.bind fun v => failsOnly_evalWithin h es (fun name found =>
      known name (List.mem_append_right _ found)) v

theorem failsOnly_evalAll (h : Admits allowed functions source) (es : List Expr)
    (known : ∀ name ∈ callsAll es, functions.contains name = true) :
    FailsOnly allowed (evalAll functions source es) := by
  cases es with
  | nil => exact .ok []
  | cons e es =>
    have first := failsOnly_eval h e fun name found => known name (List.mem_append_left _ found)
    have rest := failsOnly_evalAll h es fun name found =>
      known name (List.mem_append_right _ found)
    rw [evalAll]
    exact first.bind fun v => rest.bind fun _ => .ok _

theorem failsOnly_evalWithin (h : Admits allowed functions source) (es : List Expr)
    (known : ∀ name ∈ callsAll es, functions.contains name = true) (needle : Value) :
    FailsOnly allowed (evalWithin functions source needle es) := by
  cases es with
  | nil => exact .ok _
  | cons e es =>
    have first := failsOnly_eval h e fun name found => known name (List.mem_append_left _ found)
    rw [evalWithin]
    refine first.bind fun candidate => ?_
    split
    · exact .ok _
    · exact failsOnly_evalWithin h es (fun name found =>
        known name (List.mem_append_right _ found)) needle

end

end Expr

def Draft.FailsOnly (allowed : Error → Prop) (d : Draft) : Prop := ∀ e ∈ d.error?, allowed e

namespace Draft.FailsOnly

variable {allowed : Error → Prop} {d e : Draft}

theorem of_none (ok : d.error? = none) : d.FailsOnly allowed := by
  rw [Draft.FailsOnly, ok]
  nofun

theorem empty : Draft.empty.FailsOnly allowed := of_none rfl

theorem write (s : String) : (Draft.write s).FailsOnly allowed := of_none rfl

theorem fail {error : Error} (h : allowed error) : (Draft.fail error).FailsOnly allowed := by
  rintro _ ⟨⟩
  exact h

theorem andThen (first : d.FailsOnly allowed) (second : e.FailsOnly allowed) :
    (d.andThen e).FailsOnly allowed := by
  cases h : d.error? with
  | some error =>
    rw [andThen_of_error h]
    exact first
  | none =>
    rw [andThen_of_none h]
    exact second

theorem clause {keyword : String} {cut : Outline Binding → Outline Binding}
    (h : d.FailsOnly allowed) : (d.clause keyword cut).FailsOnly allowed := by
  cases ok : d.error? with
  | some error =>
    rw [clause_of_error ok]
    exact (write keyword).andThen h
  | none =>
    rw [clause_of_none ok]
    exact of_none rfl

end Draft.FailsOnly

namespace Node

variable {allowed : Error → Prop} {functions : Registry} {source : Source}

theorem failsOnly_bindMarker (h : Admits allowed functions source) (m : Marker) :
    FailsOnly allowed (MarkedText.bindMarker source m) := by
  refine (h.source m.name).bind fun found => ?_
  cases found with
  | none => exact .error (h.rendering rfl)
  | some v => exact .ok _

theorem failsOnly_bindingsOf (h : Admits allowed functions source)
    (rest : List (Marker × String)) : FailsOnly allowed (bindingsOf source rest) := by
  induction rest with
  | nil => exact .ok _
  | cons fragment rest ih =>
    obtain ⟨m, s⟩ := fragment
    cases bound : MarkedText.bindMarker source m with
    | error e =>
      rw [bindingsOf_cons_of_error bound]
      exact .error (failsOnly_bindMarker h m e bound)
    | ok v =>
      rw [bindingsOf_cons bound]
      cases more : bindingsOf source rest with
      | error e => exact .error (ih e more)
      | ok o => exact .ok _

theorem failsOnly_draftText (h : Admits allowed functions source) (t : MarkedText) :
    (draftText source t).FailsOnly allowed := by
  rw [draftText]
  cases bound : bindingsOf source t.rest with
  | error e => exact .fail (failsOnly_bindingsOf h t.rest e bound)
  | ok o => exact .of_none rfl

theorem failsOnly_formatValue (h : Admits allowed functions source) (pattern : String)
    (v : Value) : FailsOnly allowed (formatValue pattern v) := by
  rw [formatValue]
  split
  · exact .ok _
  · exact .error (h.rendering rfl)

theorem failsOnly_printText (h : Admits allowed functions source) (print : Print) :
    FailsOnly allowed (printText source print) := by
  rw [printText]
  split
  · exact .error (h.rendering rfl)
  · exact .error (h.rendering rfl)
  · split
    · exact .error (h.rendering rfl)
    · split
      · exact failsOnly_formatValue h _ _
      · exact .ok _

theorem failsOnly_draftPrint (h : Admits allowed functions source) (print : Print) :
    (draftPrint source print).FailsOnly allowed := by
  rw [draftPrint]
  cases written : printText source print with
  | error e => exact .fail (failsOnly_printText h print e written)
  | ok s => exact .write _

theorem failsOnly_holds (h : Admits allowed functions source) {test : Condition}
    (known : test.Known functions) (body : List Node) :
    FailsOnly allowed (holds source test body) := by
  rw [holds, known.registry]
  refine (Expr.failsOnly_eval h test.expr known.calls).bind fun v => ?_
  split
  · exact .ok _
  · exact .error (h.rendering rfl)
  · exact .error (h.rendering rfl)

theorem failsOnly_loopElements (h : Admits allowed functions source) (loop : Loop)
    (shown : String) : FailsOnly allowed (loopElements source loop shown) := by
  rw [loopElements]
  split
  · next e failed => exact .error (h.source loop.collection e failed)
  · exact .ok _
  · split
    · exact .ok _
    · split
      · exact .error (h.rendering rfl)
      · exact .ok _

theorem failsOnly_draftElements (h : Admits allowed functions source) {loop : Loop}
    {drafted : Source → Draft}
    (inner : ∀ {source}, Admits allowed functions source → (drafted source).FailsOnly allowed)
    (isFirst : Bool) (elements : List (Value × Value)) :
    (draftElements source loop drafted isFirst elements).FailsOnly allowed := by
  induction elements generalizing isFirst with
  | nil => exact .write loop.closing
  | cons element rest ih =>
    obtain ⟨key, element⟩ := element
    have separator : (if isFirst then Draft.empty else Draft.write loop.separator).FailsOnly
        allowed := by
      cases isFirst with
      | true => exact .empty
      | false => exact .write loop.separator
    have scope := h.bind [(loop.item, element), (loop.index, key)]
    exact (separator.andThen (inner scope)).andThen (ih false)

theorem failsOnly_draftLoop (h : Admits allowed functions source) {loop : Loop}
    {shown : String} {drafted : Source → Draft}
    (inner : ∀ {source}, Admits allowed functions source → (drafted source).FailsOnly allowed) :
    (draftLoop source loop shown drafted).FailsOnly allowed := by
  rw [draftLoop]
  cases found : loopElements source loop shown with
  | error e => exact .fail (failsOnly_loopElements h loop shown e found)
  | ok elements =>
    cases elements with
    | nil => exact .empty
    | cons element rest =>
      exact (Draft.FailsOnly.write loop.opening).andThen
        (failsOnly_draftElements h inner true (element :: rest))

mutual

theorem failsOnly_draft {source : Source} (h : Admits allowed functions source) (node : Node)
    (known : ∀ test ∈ tests node, test.Known functions) :
    (draft source node).FailsOnly allowed := by
  cases node with
  | text t => exact failsOnly_draftText h t
  | conditional test body =>
    obtain ⟨own, inner⟩ := List.forall_mem_cons.1 known
    rw [draft]
    cases held : holds source test body with
    | error e => exact .fail (failsOnly_holds h own body e held)
    | ok b =>
      cases b with
      | true => exact failsOnly_draftAll h body inner
      | false => exact .empty
  | choose branches otherwise =>
    obtain ⟨inner, last⟩ := List.forall_mem_append.1 known
    exact failsOnly_draftBranches h branches inner (failsOnly_draftAll h otherwise last)
  | forEach loop body =>
    exact failsOnly_draftLoop h fun scope => failsOnly_draftAll scope body known
  | whereClause body => exact (failsOnly_draftAll h body known).clause
  | setClause body => exact (failsOnly_draftAll h body known).clause
  | print print => exact failsOnly_draftPrint h print
  | sequence body => exact failsOnly_draftAll h body known

theorem failsOnly_draftAll {source : Source} (h : Admits allowed functions source)
    (nodes : List Node) (known : ∀ test ∈ testsAll nodes, test.Known functions) :
    (draftAll source nodes).FailsOnly allowed := by
  cases nodes with
  | nil => exact .empty
  | cons node rest =>
    obtain ⟨first, others⟩ := List.forall_mem_append.1 known
    exact (failsOnly_draft h node first).andThen (failsOnly_draftAll h rest others)

theorem failsOnly_draftBranches {source : Source} (h : Admits allowed functions source)
    (branches : List (Condition × List Node))
    (known : ∀ test ∈ testsOfBranches branches, test.Known functions) {d : Draft}
    (last : d.FailsOnly allowed) :
    (draftBranches source branches d).FailsOnly allowed := by
  cases branches with
  | nil => exact last
  | cons branch rest =>
    obtain ⟨test, body⟩ := branch
    simp only [testsOfBranches, List.cons_append, List.forall_mem_cons,
      List.forall_mem_append] at known
    obtain ⟨own, inner, others⟩ := known
    rw [draftBranches]
    cases held : holds source test body with
    | error e => exact .fail (failsOnly_holds h own body e held)
    | ok b =>
      cases b with
      | true => exact failsOnly_draftAll h body inner
      | false => exact failsOnly_draftBranches h rest others last

end

theorem failsOnly_render {ctx : Context} (h : Admits allowed functions ctx.source)
    {nodes : List Node} (known : ∀ test ∈ testsAll nodes, test.Known functions) :
    FailsOnly allowed (render ctx nodes) := by
  have drafted := failsOnly_draftAll h nodes known
  rw [render, finish_writeAll]
  cases ok : (draftAll ctx.source nodes).error? with
  | some e =>
    rw [Draft.finish_print_of_some ok]
    exact .error (drafted e ok)
  | none =>
    rw [Draft.finish_print_of_none ok]
    exact .ok _

end Node

namespace Statement

variable {functions : Registry} {d : Document} {s : Statement}

theorem known_of_ofDocument? (built : ofDocument? functions d = .ok s) :
    ∀ test ∈ Node.testsAll s.body, test.Known functions := by
  obtain ⟨nodes, read, h⟩ := exists_of_bind_eq_ok built
  cases h
  exact Template.known_of_buildAll read

theorem failsOnly_render {allowed : Error → Prop} {source : Source}
    (built : ofDocument? functions d = .ok s) (h : Admits allowed functions source)
    (dialect : Dialect) : FailsOnly allowed (s.render dialect source) := by
  have rendered : FailsOnly allowed (Node.render ⟨dialect, source⟩ s.body) :=
    Node.failsOnly_render h (known_of_ofDocument? built)
  exact rendered.bind fun _ => .ok _

/-- A document that is built renders without faults of the template. Every function that is called
in one of its tests, evaluated or not, is in the registry. What a rendering fails with is a fault of
the parameters, or an error of the source or of a function. -/
theorem render_error_origin (built : ofDocument? functions d = .ok s) :
    (∀ test ∈ Node.testsAll s.body, ∀ name args, Expr.Part (.call name args) test.expr →
      ∃ f, test.functions.get? name = some f)
    ∧ (∀ dialect source e, s.render dialect source = .error e →
      e.isRendering = true ∨ (∃ name, source name = .error e)
        ∨ ∃ name f args, functions.get? name = some f ∧ f args = .error e)
    ∧ ∀ source : Source, (∀ name e, source name = .error e → e.isConstruction = false) →
      (∀ name f args e, functions.get? name = some f → f args = .error e →
        e.isConstruction = false) →
      ∀ dialect e, s.render dialect source = .error e → e.isConstruction = false := by
  refine ⟨?_, ?_, ?_⟩
  · intro test found name args part
    have known := known_of_ofDocument? built test found
    rw [known.registry]
    exact Option.isSome_iff_exists.1 (known.calls name part.mem_calls)
  · intro dialect source
    refine failsOnly_render built ⟨?_, ?_, ?_⟩ dialect
    · exact .inl
    · intro name f found args e failed
      exact .inr (.inr ⟨name, f, args, found, failed⟩)
    · intro name e failed
      exact .inr (.inl ⟨name, failed⟩)
  · intro source looked called dialect
    refine failsOnly_render built ⟨?_, ?_, ?_⟩ dialect
    · exact Error.isConstruction_of_isRendering
    · intro name f found args e failed
      exact called name f args e found failed
    · exact looked

theorem render_error_origin_operand :
    let d : Document := ⟨"find", [.conditional "a||len(b)" [.print ⟨"b", none, "", ""⟩]]⟩
    let source : Source := .ofBindings [("a", .boolean false)]
    let fault : Error := .function "len" .notContainer
    ∃ s, ofDocument? .builtin d = .ok s
      ∧ (∀ test ∈ Node.testsAll s.body, ∀ name args, Expr.Part (.call name args) test.expr →
        ∃ f, test.functions.get? name = some f)
      ∧ s.render .mysql source = .error fault
      ∧ (fault.isRendering = true ∨ (∃ name, source name = .error fault)
        ∨ ∃ name f args, Registry.builtin.get? name = some f ∧ f args = .error fault)
      ∧ fault.isConstruction = false := by
  intro d source fault
  let e : Expr := .binary .or (.param "a") (.call "len" [.param "b"])
  have path (c : Char) (first : Condition.startsName c = true)
      (free : Condition.isReserved (String.ofList [c]) = false) : Condition.IsPath [c] :=
    ⟨[c], [], rfl, ⟨c, [], rfl, first, List.forall_mem_nil _⟩, free, List.forall_mem_nil _⟩
  have a : Condition.IsPath ['a'] := path 'a' (by decide) (by decide)
  have b : Condition.IsPath ['b'] := path 'b' (by decide) (by decide)
  have letters : ∀ c ∈ ['l', 'e', 'n'], Condition.isWordChar c = true :=
    List.all_eq_true.1 (by decide)
  have len : Condition.IsName "len".toList := ⟨'l', ['e', 'n'], rfl, by decide, fun c found =>
    Condition.continuesName_of_isWordChar (letters c (List.mem_cons_of_mem _ found))⟩
  have left : Condition.Path "a" "a||len(b)".toList "||len(b)".toList :=
    ⟨rfl, a, Condition.endsWord_of_head rfl (by decide)⟩
  have argument : Condition.Path "b" "b)".toList ")".toList :=
    ⟨rfl, b, Condition.endsWord_of_head rfl (by decide)⟩
  have arguments : Condition.Arguments "(b)".toList [.param "b"] [] :=
    .some ⟨_, rfl, rfl⟩ ((Condition.Phrase.param argument).loosen (by decide)) .none ⟨_, rfl, rfl⟩
  have call : Condition.Phrase .operand "len(b)".toList (.call "len" [.param "b"]) [] :=
    .call ⟨rfl, len, Condition.endsWord_of_head rfl (by decide)⟩ arguments
  have mark : Condition.Infix .or "||len(b)".toList "len(b)".toList := .mark ⟨_, rfl, rfl⟩
  have written : Condition.Phrase .disjunction "a||len(b)".toList e [] :=
    .binary ((Condition.Phrase.param left).loosen (by decide)) mark (call.loosen (by decide))
  have plain : e.Plain := ⟨⟨a, List.forall_mem_singleton.2 (by decide)⟩, len, letters, by decide,
    ⟨b, List.forall_mem_singleton.2 (by decide)⟩, trivial⟩
  have parsed : Condition.parseTest "a||len(b)" = .ok e :=
    Condition.Written.parseTest_eq written plain
  have compiled : Condition.compile .builtin "a||len(b)" = .ok ⟨"a||len(b)", e, .builtin⟩ := by
    rw [Condition.compile, parsed]
    rfl
  have guarded : Template.guard .builtin "a||len(b)" [.print ⟨"b", none, "", ""⟩]
      = .ok ⟨"a||len(b)", e, .builtin⟩ := compiled
  let s : Statement :=
    ⟨"find", [.conditional ⟨"a||len(b)", e, .builtin⟩ [.print ⟨"b", none, "", ""⟩]]⟩
  have built : ofDocument? .builtin d = .ok s := by
    simp only [ofDocument?, d, Template.buildAll, Template.build]
    simp only [Template.printNode, String.isEmpty_iff, bind, Except.bind, pure, Except.pure]
    simp [guarded, s]
  have rendered : s.render .mysql source = .error fault := rfl
  obtain ⟨known, origin, safe⟩ := render_error_origin built
  refine ⟨s, built, known, rendered, origin .mysql source fault rendered, ?_⟩
  refine safe source ?_ ?_ .mysql fault rendered
  · intro name e failed
    cases failed
  · intro name f args e found failed
    obtain ⟨_, rfl⟩ := Registry.failsOnly_builtin found args e failed
    rfl

end Statement

end SqlTemplate
