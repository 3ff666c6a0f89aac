import Mathlib.Data.List.Forall2
import Mathlib.Data.List.TakeWhile
import SqlTemplate.Proofs.Calls
import SqlTemplate.Proofs.Grammar
import SqlTemplate.Proofs.Marking

/-!
Which templates are built. Each node of a template is asked for something of its own, whatever
stands around it, and a template is built if all of its nodes have it. What is built then has the
shape of the template.
-/

namespace SqlTemplate

theorem Text.trim_eq_nil_iff {s : List Char} : trim s = [] ↔ ∀ c ∈ s, isBlank c := by
  constructor
  · intro empty
    apply List.dropWhile_eq_nil_iff.1
    -- What is left of the text begins with no white space, so that nothing of it is dropped.
    cases left : s.dropWhile isBlank with
    | nil => rfl
    | cons c rest =>
      have inked : isBlank c = false := head?_trimLeft (congrArg List.head? left)
      have blank := List.dropWhile_eq_nil_iff.1 (List.reverse_eq_nil_iff.1 empty) c
        (by simp [trimLeft, left])
      simp [inked] at blank
  · intro blank
    rw [trim, trimLeft, List.dropWhile_eq_nil_iff.2 blank]
    rfl

namespace Tree

variable {Text Test : Type}

def children : Tree Text Test → List (Tree Text Test)
  | .text _ => []
  | .conditional _ body => body
  | .choose branches otherwise => branches.flatMap (·.2) ++ otherwise
  | .forEach _ body => body
  | .whereClause body => body
  | .setClause body => body
  | .print _ => []
  | .sequence body => body

inductive Within (part : Tree Text Test) : Tree Text Test → Prop
  | self : Within part part
  | child {inner tree} : inner ∈ tree.children → Within part inner → Within part tree

theorem forall_within_iff {P : Tree Text Test → Prop} {tree : Tree Text Test} :
    (∀ part, Within part tree → P part)
      ↔ P tree ∧ ∀ inner ∈ tree.children, ∀ part, Within part inner → P part := by
  constructor
  · intro h
    exact ⟨h tree .self, fun inner among part within => h part (.child among within)⟩
  · rintro ⟨root, inside⟩ part within
    cases within with
    | self => exact root
    | child among within => exact inside _ among part within

end Tree

namespace Condition

/-- What the text of a test has to be: more than white space, in the grammar, and without calls, at
any depth, of functions that are not in the registry. -/
structure Proper (functions : Registry) (source : String) (e : Expr) : Prop where
  inked : ∃ c ∈ source.toList, Text.isBlank c = false
  parsed : parseTest source = .ok e
  known : ∀ name args, Expr.Part (.call name args) e → ∃ f, functions.get? name = some f

theorem known_iff {functions : Registry} {test : Condition} : test.Known functions
    ↔ test.functions = functions
      ∧ ∀ name args, Expr.Part (.call name args) test.expr → ∃ f, functions.get? name = some f := by
  constructor
  · intro known
    exact ⟨known.registry, fun name args part =>
      Option.isSome_iff_exists.1 (known.calls name part.mem_calls)⟩
  · rintro ⟨registry, found⟩
    refine ⟨registry, fun name called => Option.isSome_iff_exists.2 ?_⟩
    obtain ⟨args, part⟩ := Expr.mem_calls_iff.1 called
    exact found name args part

end Condition

namespace Template

variable {functions : Registry}

theorem guard_eq_ok_iff_proper {source : String} {body : List Node} {test : Condition} :
    guard functions source body = .ok test
      ↔ ∃ e, test = ⟨source, e, functions⟩ ∧ Condition.Proper functions source e ∧ body ≠ [] := by
  have inked : Text.trim source.toList ≠ [] ↔ ∃ c ∈ source.toList, Text.isBlank c = false := by
    simp [Text.trim_eq_nil_iff]
  rw [guard_eq_ok_iff, Condition.compile_eq_ok_iff, Condition.known_iff, inked]
  constructor
  · rintro ⟨inked, filled, rfl, parsed, rfl, known⟩
    exact ⟨test.expr, rfl, ⟨inked, parsed, known⟩, filled⟩
  · rintro ⟨e, rfl, proper, filled⟩
    exact ⟨proper.inked, filled, rfl, proper.parsed, rfl, proper.known⟩

/-- What one node of a template is asked for, whatever stands in it. -/
def LocallyValid (functions : Registry) : Template → Prop
  | .text sql => ∃ t, MarkedText.ofText? sql = .ok t
  | .conditional test body => (∃ e, Condition.Proper functions test e) ∧ body ≠ []
  | .choose branches _ => ∀ branch ∈ branches,
    (∃ e, Condition.Proper functions branch.1 e) ∧ branch.2 ≠ []
  | .forEach loop body => body ≠ [] ∧ loop.collection ≠ ""
  | .whereClause _ => True
  | .setClause _ => True
  | .print p => p.name ≠ ""
  | .sequence _ => True

/-- What stands in the place of a body: nothing, its node, or all its nodes in a sequence. -/
inductive Slot : List Node → List Node → Prop
  | none : Slot [] []
  | one {node} : Slot [node] [node]
  | several {nodes} : 2 ≤ nodes.length → Slot nodes [.sequence nodes]

theorem slot_stands (nodes : List Node) : Slot nodes (slot nodes) := by
  match nodes with
  | [] => exact .none
  | [node] => exact .one
  | first :: second :: rest => exact .several (by simp)

inductive Named (fallback : String) : String → String → Prop
  | default : Named fallback "" fallback
  | given {name} : name ≠ "" → Named fallback name name

theorem named_orDefault (name fallback : String) :
    Named fallback name (orDefault name fallback) := by
  rw [orDefault]
  split
  · next empty =>
    obtain rfl := String.isEmpty_iff.1 empty
    exact .default
  · next given => exact .given (by simpa using given)

mutual

/-- `Becomes functions template node`: the node has the shape of the template, with its texts and
tests read, and the tests with these functions. -/
inductive Becomes (functions : Registry) : Template → Node → Prop
  | text {sql t} : MarkedText.ofText? sql = .ok t → Becomes functions (.text sql) (.text t)
  | conditional {source e body nodes place} : Condition.parseTest source = .ok e →
      BecomesAll functions body nodes → Slot nodes place →
      Becomes functions (.conditional source body) (.conditional ⟨source, e, functions⟩ place)
  | choose {branches read otherwise nodes place} : BecomesBranches functions branches read →
      BecomesAll functions otherwise nodes → Slot nodes place →
      Becomes functions (.choose branches otherwise) (.choose read place)
  | forEach {loop body nodes item index} : BecomesAll functions body nodes →
      Named "item" loop.item item → Named "index" loop.index index →
      Becomes functions (.forEach loop body)
        (.forEach { loop with item := item, index := index } nodes)
  | whereClause {body nodes} : BecomesAll functions body nodes →
      Becomes functions (.whereClause body) (.whereClause nodes)
  | setClause {body nodes} : BecomesAll functions body nodes →
      Becomes functions (.setClause body) (.setClause nodes)
  | print {p} : Becomes functions (.print p)
      (.print { p with format := p.format.filter (!·.isEmpty) })
  | sequence {body nodes} : BecomesAll functions body nodes →
      Becomes functions (.sequence body) (.sequence nodes)

inductive BecomesAll (functions : Registry) : List Template → List Node → Prop
  | nil : BecomesAll functions [] []
  | cons {template node rest nodes} : Becomes functions template node →
      BecomesAll functions rest nodes → BecomesAll functions (template :: rest) (node :: nodes)

inductive BecomesBranches (functions : Registry) :
    List (String × List Template) → List (Condition × List Node) → Prop
  | nil : BecomesBranches functions [] []
  | cons {source e body nodes place rest read} : Condition.parseTest source = .ok e →
      BecomesAll functions body nodes → Slot nodes place → BecomesBranches functions rest read →
      BecomesBranches functions ((source, body) :: rest) ((⟨source, e, functions⟩, place) :: read)

end

theorem BecomesAll.eq_nil_iff {templates : List Template} {nodes : List Node}
    (h : BecomesAll functions templates nodes) : nodes = [] ↔ templates = [] := by
  cases h <;> simp

theorem BecomesAll.forall₂ {templates : List Template} {nodes : List Node}
    (h : BecomesAll functions templates nodes) :
    List.Forall₂ (Becomes functions) templates nodes := by
  induction templates generalizing nodes with
  | nil =>
    cases h
    exact .nil
  | cons template rest ih =>
    cases h with
    | cons first more => exact .cons first (ih more)

def Valid (functions : Registry) (template : Template) : Prop :=
  ∀ part, Tree.Within part template → LocallyValid functions part

theorem valid_iff {template : Template} : Valid functions template
    ↔ LocallyValid functions template ∧ ∀ inner ∈ template.children, Valid functions inner :=
  Tree.forall_within_iff

mutual

theorem sound_of_build {template : Template} {node : Node}
    (h : build functions template = .ok node) :
    Valid functions template ∧ Becomes functions template node := by
  rw [valid_iff]
  cases template with
  | text sql =>
    obtain ⟨t, read, h⟩ := exists_of_bind_eq_ok h
    cases h
    exact ⟨⟨⟨t, read⟩, nofun⟩, .text read⟩
  | conditional source body =>
    obtain ⟨nodes, built, h⟩ := exists_of_bind_eq_ok h
    obtain ⟨test, read, h⟩ := exists_of_bind_eq_ok h
    cases h
    obtain ⟨valid, becomes⟩ := sound_of_buildAll built
    obtain ⟨e, rfl, proper, filled⟩ := guard_eq_ok_iff_proper.1 read
    exact ⟨⟨⟨⟨e, proper⟩, mt becomes.eq_nil_iff.2 filled⟩, valid⟩,
      .conditional proper.parsed becomes (slot_stands nodes)⟩
  | choose branches otherwise =>
    obtain ⟨inner, built, h⟩ := exists_of_bind_eq_ok h
    obtain ⟨default, last, h⟩ := exists_of_bind_eq_ok h
    obtain ⟨guarded, read, h⟩ := exists_of_bind_eq_ok h
    cases h
    obtain ⟨valid, becomes⟩ := sound_of_buildAll last
    obtain ⟨proper, inside, branchwise⟩ := sound_of_buildBranches built read
    refine ⟨⟨proper, ?_⟩, .choose branchwise becomes (slot_stands default)⟩
    -- Right inside of a choice stand the nodes of its branches and those of its default.
    intro template among
    rcases List.mem_append.1 among with among | among
    · obtain ⟨branch, which, among⟩ := List.mem_flatMap.1 among
      exact inside branch which template among
    · exact valid template among
  | forEach loop body =>
    obtain ⟨nodes, built, h⟩ := exists_of_bind_eq_ok h
    obtain ⟨valid, becomes⟩ := sound_of_buildAll built
    obtain ⟨filled, named, rfl⟩ := loopNode_eq_ok_iff.1 h
    exact ⟨⟨⟨mt becomes.eq_nil_iff.2 filled, named⟩, valid⟩,
      .forEach becomes (named_orDefault loop.item _) (named_orDefault loop.index _)⟩
  | whereClause body =>
    obtain ⟨nodes, built, h⟩ := exists_of_bind_eq_ok h
    cases h
    obtain ⟨valid, becomes⟩ := sound_of_buildAll built
    exact ⟨⟨trivial, valid⟩, .whereClause becomes⟩
  | setClause body =>
    obtain ⟨nodes, built, h⟩ := exists_of_bind_eq_ok h
    cases h
    obtain ⟨valid, becomes⟩ := sound_of_buildAll built
    exact ⟨⟨trivial, valid⟩, .setClause becomes⟩
  | print p =>
    obtain ⟨named, rfl⟩ := printNode_eq_ok_iff.1 h
    exact ⟨⟨named, nofun⟩, .print⟩
  | sequence body =>
    obtain ⟨nodes, built, h⟩ := exists_of_bind_eq_ok h
    cases h
    obtain ⟨valid, becomes⟩ := sound_of_buildAll built
    exact ⟨⟨trivial, valid⟩, .sequence becomes⟩

theorem sound_of_buildAll {templates : List Template} {nodes : List Node}
    (h : buildAll functions templates = .ok nodes) :
    (∀ template ∈ templates, Valid functions template) ∧ BecomesAll functions templates nodes := by
  cases templates with
  | nil =>
    cases h
    exact ⟨nofun, .nil⟩
  | cons template rest =>
    obtain ⟨node, first, h⟩ := exists_of_bind_eq_ok h
    obtain ⟨others, more, h⟩ := exists_of_bind_eq_ok h
    cases h
    obtain ⟨valid, becomes⟩ := sound_of_build first
    obtain ⟨restValid, restBecomes⟩ := sound_of_buildAll more
    exact ⟨List.forall_mem_cons.2 ⟨valid, restValid⟩, .cons becomes restBecomes⟩

theorem sound_of_buildBranches {branches : List (String × List Template)}
    {built : List (String × List Node)} {guarded : List (Condition × List Node)}
    (h : buildBranches functions branches = .ok built)
    (read : guardAll functions built = .ok guarded) :
    LocallyValid functions (.choose branches [])
      ∧ (∀ branch ∈ branches, ∀ template ∈ branch.2, Valid functions template)
      ∧ BecomesBranches functions branches guarded := by
  cases branches with
  | nil =>
    cases h
    cases read
    exact ⟨nofun, nofun, .nil⟩
  | cons branch rest =>
    obtain ⟨source, body⟩ := branch
    obtain ⟨nodes, first, h⟩ := exists_of_bind_eq_ok h
    obtain ⟨others, more, h⟩ := exists_of_bind_eq_ok h
    cases h
    obtain ⟨test, guarded, read⟩ := exists_of_bind_eq_ok read
    obtain ⟨others, restRead, read⟩ := exists_of_bind_eq_ok read
    cases read
    obtain ⟨valid, becomes⟩ := sound_of_buildAll first
    obtain ⟨e, rfl, proper, filled⟩ := guard_eq_ok_iff_proper.1 guarded
    obtain ⟨restProper, restValid, restBecomes⟩ := sound_of_buildBranches more restRead
    refine ⟨List.forall_mem_cons.2 ⟨⟨⟨e, proper⟩, ?_⟩, restProper⟩,
      List.forall_mem_cons.2 ⟨valid, restValid⟩,
      .cons proper.parsed becomes (slot_stands nodes) restBecomes⟩
    exact mt becomes.eq_nil_iff.2 filled

end

theorem exists_guard {source : String} {body : List Template} {nodes : List Node}
    (proper : ∃ e, Condition.Proper functions source e) (filled : body ≠ [])
    (becomes : BecomesAll functions body nodes) :
    ∃ test, guard functions source nodes = .ok test := by
  obtain ⟨e, proper⟩ := proper
  exact ⟨⟨source, e, functions⟩,
    guard_eq_ok_iff_proper.2 ⟨e, rfl, proper, mt becomes.eq_nil_iff.1 filled⟩⟩

mutual

theorem exists_build {template : Template} (h : Valid functions template) :
    ∃ node, build functions template = .ok node := by
  obtain ⟨own, inside⟩ := valid_iff.1 h
  cases template with
  | text sql =>
    obtain ⟨t, read⟩ := own
    exact ⟨_, bind_eq_of_eq_ok read _⟩
  | conditional source body =>
    obtain ⟨proper, filled⟩ := own
    obtain ⟨nodes, built⟩ := exists_buildAll inside
    obtain ⟨test, read⟩ := exists_guard proper filled (sound_of_buildAll built).2
    exact ⟨_, (bind_eq_of_eq_ok built _).trans (bind_eq_of_eq_ok read _)⟩
  | choose branches otherwise =>
    have branchwise : ∀ branch ∈ branches, ∀ template ∈ branch.2, Valid functions template :=
      fun branch which template among =>
        inside template (List.mem_append_left _ (List.mem_flatMap.2 ⟨branch, which, among⟩))
    obtain ⟨bodies, guarded, built, read⟩ := exists_buildBranches own branchwise
    obtain ⟨nodes, last⟩ := exists_buildAll fun template among =>
      inside template (List.mem_append_right _ among)
    exact ⟨_, (bind_eq_of_eq_ok built _).trans
      ((bind_eq_of_eq_ok last _).trans (bind_eq_of_eq_ok read _))⟩
  | forEach loop body =>
    obtain ⟨filled, named⟩ := own
    obtain ⟨nodes, built⟩ := exists_buildAll inside
    have filled : nodes ≠ [] := mt (sound_of_buildAll built).2.eq_nil_iff.1 filled
    exact ⟨_, (bind_eq_of_eq_ok built _).trans (loopNode_eq_ok_iff.2 ⟨filled, named, rfl⟩)⟩
  | whereClause body =>
    obtain ⟨nodes, built⟩ := exists_buildAll inside
    exact ⟨_, bind_eq_of_eq_ok built _⟩
  | setClause body =>
    obtain ⟨nodes, built⟩ := exists_buildAll inside
    exact ⟨_, bind_eq_of_eq_ok built _⟩
  | print p => exact ⟨_, printNode_eq_ok_iff.2 ⟨own, rfl⟩⟩
  | sequence body =>
    obtain ⟨nodes, built⟩ := exists_buildAll inside
    exact ⟨_, bind_eq_of_eq_ok built _⟩

theorem exists_buildAll {templates : List Template}
    (h : ∀ template ∈ templates, Valid functions template) :
    ∃ nodes, buildAll functions templates = .ok nodes := by
  cases templates with
  | nil => exact ⟨[], rfl⟩
  | cons template rest =>
    obtain ⟨valid, restValid⟩ := List.forall_mem_cons.1 h
    obtain ⟨node, first⟩ := exists_build valid
    obtain ⟨nodes, more⟩ := exists_buildAll restValid
    exact ⟨_, (bind_eq_of_eq_ok first _).trans (bind_eq_of_eq_ok more _)⟩

theorem exists_buildBranches {branches : List (String × List Template)}
    (own : ∀ branch ∈ branches, (∃ e, Condition.Proper functions branch.1 e) ∧ branch.2 ≠ [])
    (inside : ∀ branch ∈ branches, ∀ template ∈ branch.2, Valid functions template) :
    ∃ built guarded, buildBranches functions branches = .ok built
      ∧ guardAll functions built = .ok guarded := by
  cases branches with
  | nil => exact ⟨[], [], rfl, rfl⟩
  | cons branch rest =>
    obtain ⟨source, body⟩ := branch
    obtain ⟨⟨proper, filled⟩, restOwn⟩ := List.forall_mem_cons.1 own
    obtain ⟨valid, restValid⟩ := List.forall_mem_cons.1 inside
    obtain ⟨nodes, first⟩ := exists_buildAll valid
    obtain ⟨built, guarded, more, restRead⟩ := exists_buildBranches restOwn restValid
    obtain ⟨test, read⟩ := exists_guard proper filled (sound_of_buildAll first).2
    exact ⟨_, _, (bind_eq_of_eq_ok first _).trans (bind_eq_of_eq_ok more _),
      (bind_eq_of_eq_ok read _).trans (bind_eq_of_eq_ok restRead _)⟩

end

/-- Templates are built if and only if each node in them, at any depth, has what it is asked for by
itself. The nodes that are built stand one for each template, in its place and in its shape. -/
theorem buildAll_exact (functions : Registry) (templates : List Template) :
    ((∃ nodes, buildAll functions templates = .ok nodes)
      ↔ ∀ template ∈ templates, ∀ part, Tree.Within part template → LocallyValid functions part)
    ∧ ∀ nodes, buildAll functions templates = .ok nodes →
      List.Forall₂ (Becomes functions) templates nodes :=
  ⟨⟨fun ⟨_, built⟩ => (sound_of_buildAll built).1, exists_buildAll⟩,
    fun _ built => (sound_of_buildAll built).2.forall₂⟩

theorem buildAll_exact_rows :
    let templates : List Template := [.conditional "a" [.text "id = ", .text "#\x7bid\x7d"],
      .forEach ⟨"ids", "", "n", "(", ", ", ")"⟩ [.text "#\x7bitem\x7d"]]
    let nodes : List Node := [.conditional ⟨"a", .param "a", .builtin⟩
        [.sequence [.text ⟨"id = ", []⟩, .text ⟨"", [(⟨"id"⟩, "")]⟩]],
      .forEach ⟨"ids", "item", "n", "(", ", ", ")"⟩ [.text ⟨"", [(⟨"item"⟩, "")]⟩]]
    buildAll .builtin templates = .ok nodes
      ∧ (∀ template ∈ templates, ∀ part, Tree.Within part template → LocallyValid .builtin part)
      ∧ List.Forall₂ (Becomes .builtin) templates nodes := by
  intro templates nodes
  have path : Condition.IsPath ['a'] :=
    ⟨['a'], [], rfl, ⟨'a', [], rfl, by decide, List.forall_mem_nil _⟩, by decide,
      List.forall_mem_nil _⟩
  have front : Condition.Path "a" ['a'] [] := ⟨rfl, path, nofun⟩
  have written : Condition.Written "a" (.param "a") :=
    (Condition.Phrase.param front).loosen (by decide)
  have plain : (Expr.param "a").Plain := ⟨path, List.forall_mem_singleton.2 (by decide)⟩
  have parsed : Condition.parseTest "a" = .ok (.param "a") := written.parseTest_eq plain
  have marked (sql : String) (t : MarkedText) (read : MarkedText.Reads sql.toList t) :
      MarkedText.ofText? sql = .ok t := MarkedText.ofText?_eq_ok_iff.2 read
  have literal := marked "id = " ⟨"id = ", []⟩ (.plain rfl)
  have id := marked "#\x7bid\x7d" ⟨"", [(⟨"id"⟩, "")]⟩ (.marker rfl rfl rfl (.plain rfl))
  have item := marked "#\x7bitem\x7d" ⟨"", [(⟨"item"⟩, "")]⟩ (.marker rfl rfl rfl (.plain rfl))
  have guarded (body : List Node) (filled : body ≠ []) :
      guard .builtin "a" body = .ok ⟨"a", .param "a", .builtin⟩ := by
    have inked : ∃ c ∈ "a".toList, Text.isBlank c = false := ⟨'a', by decide, by decide⟩
    exact guard_eq_ok_iff_proper.2 ⟨_, rfl, ⟨inked, parsed, nofun⟩, filled⟩
  have built : buildAll .builtin templates = .ok nodes := by
    simp only [templates, buildAll, build, literal, id, item, bind, Except.bind, pure, Except.pure]
    rw [guarded _ (by simp)]
    rfl
  obtain ⟨valid, becomes⟩ := buildAll_exact .builtin templates
  exact ⟨built, valid.1 ⟨nodes, built⟩, becomes nodes built⟩

end Template
end SqlTemplate
