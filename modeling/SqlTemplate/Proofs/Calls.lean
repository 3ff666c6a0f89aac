import SqlTemplate.Template.Node

namespace SqlTemplate

namespace Expr

inductive Part (e : Expr) : Expr → Prop
  | self : Part e e
  | argument {name args a} : a ∈ args → Part e a → Part e (.call name args)
  | operand {op a} : Part e a → Part e (.unary op a)
  | left {op l r} : Part e l → Part e (.binary op l r)
  | right {op l r} : Part e r → Part e (.binary op l r)
  | needle {a es} : Part e a → Part e (.within a es)
  | candidate {a c es} : c ∈ es → Part e c → Part e (.within a es)

theorem mem_callsAll {name : String} {e : Expr} {es : List Expr} (found : e ∈ es)
    (h : name ∈ e.calls) : name ∈ callsAll es := by
  induction es with
  | nil => cases found
  | cons d es ih =>
    rw [callsAll, List.mem_append]
    rcases List.mem_cons.1 found with rfl | found
    · exact .inl h
    · exact .inr (ih found)

theorem Part.mem_calls {name : String} {args : List Expr} {e : Expr}
    (h : Part (.call name args) e) : name ∈ e.calls := by
  induction h with
  | self => exact List.mem_cons_self
  | argument found _ ih => exact List.mem_cons_of_mem _ (mem_callsAll found ih)
  | operand _ ih => exact ih
  | left _ ih => exact List.mem_append_left _ ih
  | right _ ih => exact List.mem_append_right _ ih
  | needle _ ih => exact List.mem_append_left _ ih
  | candidate found _ ih => exact List.mem_append_right _ (mem_callsAll found ih)

mutual

theorem exists_part_of_mem_calls {name : String} {e : Expr} (h : name ∈ e.calls) :
    ∃ args, Part (.call name args) e := by
  cases e with
  | literal v => cases h
  | param path => cases h
  | call called args =>
    rcases List.mem_cons.1 h with rfl | h
    · exact ⟨args, .self⟩
    · obtain ⟨inner, a, found, part⟩ := exists_part_of_mem_callsAll h
      exact ⟨inner, .argument found part⟩
  | unary op a =>
    obtain ⟨inner, part⟩ := exists_part_of_mem_calls (e := a) h
    exact ⟨inner, .operand part⟩
  | binary op l r =>
    rcases List.mem_append.1 h with h | h
    · obtain ⟨inner, part⟩ := exists_part_of_mem_calls h
      exact ⟨inner, .left part⟩
    · obtain ⟨inner, part⟩ := exists_part_of_mem_calls h
      exact ⟨inner, .right part⟩
  | within a es =>
    rcases List.mem_append.1 h with h | h
    · obtain ⟨inner, part⟩ := exists_part_of_mem_calls h
      exact ⟨inner, .needle part⟩
    · obtain ⟨inner, c, found, part⟩ := exists_part_of_mem_callsAll h
      exact ⟨inner, .candidate found part⟩

theorem exists_part_of_mem_callsAll {name : String} {es : List Expr} (h : name ∈ callsAll es) :
    ∃ args, ∃ e ∈ es, Part (.call name args) e := by
  cases es with
  | nil => cases h
  | cons e es =>
    rcases List.mem_append.1 h with h | h
    · obtain ⟨args, part⟩ := exists_part_of_mem_calls h
      exact ⟨args, e, List.mem_cons_self, part⟩
    · obtain ⟨args, a, found, part⟩ := exists_part_of_mem_callsAll h
      exact ⟨args, a, List.mem_cons_of_mem e found, part⟩

end

theorem mem_calls_iff {name : String} {e : Expr} :
    name ∈ e.calls ↔ ∃ args, Part (.call name args) e :=
  ⟨exists_part_of_mem_calls, fun ⟨_, part⟩ => part.mem_calls⟩

end Expr

namespace Node

mutual

def tests : Node → List Condition
  | .text _ => []
  | .conditional test body => test :: testsAll body
  | .choose branches otherwise => testsOfBranches branches ++ testsAll otherwise
  | .forEach _ body => testsAll body
  | .whereClause body => testsAll body
  | .setClause body => testsAll body
  | .print _ => []
  | .sequence body => testsAll body

def testsAll : List Node → List Condition
  | [] => []
  | node :: rest => tests node ++ testsAll rest

def testsOfBranches : List (Condition × List Node) → List Condition
  | [] => []
  | (test, body) :: rest => test :: testsAll body ++ testsOfBranches rest

end

end Node

namespace Condition

/-- Whether a test is read for a registry, and all functions that it calls are in it. -/
structure Known (functions : Registry) (test : Condition) : Prop where
  registry : test.functions = functions
  calls : ∀ name ∈ test.expr.calls, functions.contains name = true

theorem compile_eq_ok_iff {functions : Registry} {source : String} {test : Condition} :
    compile functions source = .ok test
      ↔ test.source = source ∧ parseTest source = .ok test.expr ∧ test.Known functions := by
  constructor
  · intro h
    obtain ⟨e, parsed, h⟩ := exists_of_bind_eq_ok h
    split at h
    · cases h
    · next none =>
      cases h
      refine ⟨rfl, parsed, rfl, fun name found => ?_⟩
      simpa using List.find?_eq_none.1 none name found
  · rintro ⟨rfl, parsed, rfl, known⟩
    have none : test.expr.calls.find? (fun name => !test.functions.contains name) = none :=
      List.find?_eq_none.2 fun name found => by simp [known name found]
    rw [compile, bind_eq_of_eq_ok parsed, none]

end Condition

namespace Template

open Node (tests testsAll testsOfBranches)

variable {functions : Registry}

theorem testsAll_slot (nodes : List Node) : testsAll (slot nodes) = testsAll nodes := by
  match nodes with
  | [] | [_] => rfl
  | first :: second :: rest => exact List.append_nil _

theorem guard_eq_ok_iff {source : String} {body : List Node} {test : Condition} :
    guard functions source body = .ok test ↔ Text.trim source.toList ≠ [] ∧ body ≠ []
      ∧ Condition.compile functions source = .ok test := by
  rw [guard]
  split
  · next blank => simp [List.isEmpty_iff.1 blank]
  · next inked =>
    split
    · next empty => simp [List.isEmpty_iff.1 empty]
    · next filled =>
      rw [List.isEmpty_iff] at inked filled
      simp [inked, filled]

theorem loopNode_eq_ok_iff {loop : Loop} {body : List Node} {node : Node} :
    loopNode loop body = .ok node
      ↔ body ≠ [] ∧ loop.collection ≠ "" ∧ .forEach { loop with
        item := orDefault loop.item "item"
        index := orDefault loop.index "index" } body = node := by
  rw [loopNode]
  split
  · next empty => simp [List.isEmpty_iff.1 empty]
  · next filled =>
    split
    · next empty => simp [String.isEmpty_iff.1 empty]
    · next named =>
      rw [List.isEmpty_iff] at filled
      rw [String.isEmpty_iff] at named
      simp [filled, named]

theorem printNode_eq_ok_iff {p : Print} {node : Node} : printNode p = .ok node
    ↔ p.name ≠ "" ∧ .print { p with format := p.format.filter (!·.isEmpty) } = node := by
  rw [printNode]
  split
  · next empty => simp [String.isEmpty_iff.1 empty]
  · next named =>
    rw [String.isEmpty_iff] at named
    simp [named]

theorem known_of_guard {source : String} {body : List Node} {test : Condition}
    (h : guard functions source body = .ok test) : test.Known functions := by
  obtain ⟨-, -, compiled⟩ := guard_eq_ok_iff.1 h
  exact (Condition.compile_eq_ok_iff.1 compiled).2.2

theorem known_of_loopNode {loop : Loop} {body : List Node} {node : Node}
    (inner : ∀ test ∈ testsAll body, test.Known functions)
    (h : loopNode loop body = .ok node) : ∀ test ∈ tests node, test.Known functions := by
  obtain ⟨-, -, rfl⟩ := loopNode_eq_ok_iff.1 h
  exact inner

theorem known_of_printNode {p : Print} {node : Node} (h : printNode p = .ok node) :
    ∀ test ∈ tests node, test.Known functions := by
  obtain ⟨-, rfl⟩ := printNode_eq_ok_iff.1 h
  nofun

theorem known_of_guardAll {branches : List (String × List Node)}
    {guarded : List (Condition × List Node)}
    (inner : ∀ branch ∈ branches, ∀ test ∈ testsAll branch.2, test.Known functions)
    (h : guardAll functions branches = .ok guarded) :
    ∀ test ∈ testsOfBranches guarded, test.Known functions := by
  induction branches generalizing guarded with
  | nil =>
    cases h
    nofun
  | cons branch rest ih =>
    obtain ⟨source, body⟩ := branch
    obtain ⟨first, read, h⟩ := exists_of_bind_eq_ok h
    obtain ⟨others, more, h⟩ := exists_of_bind_eq_ok h
    cases h
    simp only [testsOfBranches, testsAll_slot, List.cons_append, List.forall_mem_cons,
      List.forall_mem_append]
    refine ⟨known_of_guard read, inner _ List.mem_cons_self, ?_⟩
    exact ih (fun branch found => inner branch (List.mem_cons_of_mem _ found)) more

mutual

theorem known_of_build {template : Template} {node : Node}
    (h : build functions template = .ok node) : ∀ test ∈ tests node, test.Known functions := by
  cases template with
  | text sql =>
    obtain ⟨t, -, h⟩ := exists_of_bind_eq_ok h
    cases h
    nofun
  | conditional source body =>
    obtain ⟨nodes, built, h⟩ := exists_of_bind_eq_ok h
    obtain ⟨test, read, h⟩ := exists_of_bind_eq_ok h
    cases h
    rw [tests, testsAll_slot]
    exact List.forall_mem_cons.2 ⟨known_of_guard read, known_of_buildAll built⟩
  | choose branches otherwise =>
    obtain ⟨inner, built, h⟩ := exists_of_bind_eq_ok h
    obtain ⟨default, last, h⟩ := exists_of_bind_eq_ok h
    obtain ⟨guarded, read, h⟩ := exists_of_bind_eq_ok h
    cases h
    rw [tests, testsAll_slot]
    exact List.forall_mem_append.2
      ⟨known_of_guardAll (known_of_buildBranches built) read, known_of_buildAll last⟩
  | forEach loop body =>
    obtain ⟨nodes, built, h⟩ := exists_of_bind_eq_ok h
    exact known_of_loopNode (known_of_buildAll built) h
  | whereClause body =>
    obtain ⟨nodes, built, h⟩ := exists_of_bind_eq_ok h
    cases h
    exact known_of_buildAll built
  | setClause body =>
    obtain ⟨nodes, built, h⟩ := exists_of_bind_eq_ok h
    cases h
    exact known_of_buildAll built
  | print p => exact known_of_printNode h
  | sequence body =>
    obtain ⟨nodes, built, h⟩ := exists_of_bind_eq_ok h
    cases h
    exact known_of_buildAll built

theorem known_of_buildAll {templates : List Template} {nodes : List Node}
    (h : buildAll functions templates = .ok nodes) :
    ∀ test ∈ testsAll nodes, test.Known functions := by
  cases templates with
  | nil =>
    cases h
    nofun
  | cons template rest =>
    obtain ⟨node, first, h⟩ := exists_of_bind_eq_ok h
    obtain ⟨others, more, h⟩ := exists_of_bind_eq_ok h
    cases h
    exact List.forall_mem_append.2 ⟨known_of_build first, known_of_buildAll more⟩

theorem known_of_buildBranches {branches : List (String × List Template)}
    {built : List (String × List Node)} (h : buildBranches functions branches = .ok built) :
    ∀ branch ∈ built, ∀ test ∈ testsAll branch.2, test.Known functions := by
  cases branches with
  | nil =>
    cases h
    nofun
  | cons branch rest =>
    obtain ⟨source, body⟩ := branch
    obtain ⟨nodes, first, h⟩ := exists_of_bind_eq_ok h
    obtain ⟨others, more, h⟩ := exists_of_bind_eq_ok h
    cases h
    exact List.forall_mem_cons.2 ⟨known_of_buildAll first, known_of_buildBranches more⟩

end

end Template

end SqlTemplate
