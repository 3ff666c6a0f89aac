import SqlTemplate.Proofs.Names
import SqlTemplate.Template.Node

namespace SqlTemplate

open Text (headSegment renameHead)

/-- Whether a test is another one with `y` in the place of `x`, and calls the same functions. How it
is spelled is left open. -/
structure Condition.Renames (x y : String) (test other : Condition) : Prop where
  expr : other.expr = test.expr.rename x y
  functions : other.functions = test.functions

theorem Condition.renames_self (x : String) (test : Condition) : test.Renames x x test :=
  ⟨(Expr.rename_self x test.expr).symm, rfl⟩

namespace Node

mutual

/-- The names that a node mentions: the first segments of what is looked up in it, and the variables
of the loops in it. -/
def mentioned : Node → List String
  | .text t => t.markers.map fun m => headSegment m.name
  | .conditional test body => test.expr.paths.map headSegment ++ mentionedAll body
  | .choose branches otherwise => mentionedInBranches branches ++ mentionedAll otherwise
  | .forEach loop body =>
    headSegment loop.collection :: loop.item :: loop.index :: mentionedAll body
  | .whereClause body => mentionedAll body
  | .setClause body => mentionedAll body
  | .print print => [headSegment print.name]
  | .sequence body => mentionedAll body

def mentionedAll : List Node → List String
  | [] => []
  | node :: rest => mentioned node ++ mentionedAll rest

def mentionedInBranches : List (Condition × List Node) → List String
  | [] => []
  | (test, body) :: rest =>
    test.expr.paths.map headSegment ++ mentionedAll body ++ mentionedInBranches rest

end

mutual

/-- `Renames x y node other`: the other node is the first one with `y` in the place of `x` as first
segment, wherever `x` is not bound again. How its tests and markers are spelled is left open. -/
inductive Renames (x y : String) : Node → Node → Prop
  | text {t u : MarkedText} : u.fragments = t.fragments →
      u.markers.map Marker.name = t.markers.map (fun m => renameHead x y m.name) →
      Renames x y (.text t) (.text u)
  | conditional {test other : Condition} {body more : List Node} :
      test.Renames x y other → RenamesAll x y body more →
      Renames x y (.conditional test body) (.conditional other more)
  | choose {branches others : List (Condition × List Node)} {otherwise default : List Node} :
      RenamesBranches x y branches others → RenamesAll x y otherwise default →
      Renames x y (.choose branches otherwise) (.choose others default)
  | forEach {loop : Loop} {body more : List Node} : loop.item ≠ x → loop.index ≠ x →
      RenamesAll x y body more → Renames x y (.forEach loop body)
        (.forEach { loop with collection := renameHead x y loop.collection } more)
  | shadow {loop : Loop} {body : List Node} : loop.item = x ∨ loop.index = x →
      Renames x y (.forEach loop body)
        (.forEach { loop with collection := renameHead x y loop.collection } body)
  | whereClause {body more : List Node} : RenamesAll x y body more →
      Renames x y (.whereClause body) (.whereClause more)
  | setClause {body more : List Node} : RenamesAll x y body more →
      Renames x y (.setClause body) (.setClause more)
  | print {p : Print} : Renames x y (.print p)
      (.print { p with name := renameHead x y p.name })
  | sequence {body more : List Node} : RenamesAll x y body more →
      Renames x y (.sequence body) (.sequence more)

inductive RenamesAll (x y : String) : List Node → List Node → Prop
  | nil : RenamesAll x y [] []
  | cons {node other : Node} {rest others : List Node} : Renames x y node other →
      RenamesAll x y rest others → RenamesAll x y (node :: rest) (other :: others)

inductive RenamesBranches (x y : String) :
    List (Condition × List Node) → List (Condition × List Node) → Prop
  | nil : RenamesBranches x y [] []
  | cons {test other : Condition} {body more : List Node}
      {rest others : List (Condition × List Node)} : test.Renames x y other →
      RenamesAll x y body more → RenamesBranches x y rest others →
      RenamesBranches x y ((test, body) :: rest) ((other, more) :: others)

end

mutual

theorem renames_self (x : String) (node : Node) : Renames x x node node := by
  cases node with
  | text t => exact .text rfl (by simp)
  | conditional test body => exact .conditional (test.renames_self x) (renamesAll_self x body)
  | choose branches otherwise =>
    exact .choose (renamesBranches_self x branches) (renamesAll_self x otherwise)
  | forEach loop body =>
    by_cases bound : loop.item = x ∨ loop.index = x
    · have shadowed : Renames x x (.forEach loop body) _ := .shadow bound
      simpa using shadowed
    · obtain ⟨item, index⟩ := not_or.1 bound
      simpa using Renames.forEach item index (renamesAll_self x body)
  | whereClause body => exact .whereClause (renamesAll_self x body)
  | setClause body => exact .setClause (renamesAll_self x body)
  | print p =>
    have printed : Renames x x (.print p) _ := .print
    simpa using printed
  | sequence body => exact .sequence (renamesAll_self x body)

theorem renamesAll_self (x : String) (nodes : List Node) : RenamesAll x x nodes nodes := by
  cases nodes with
  | nil => exact .nil
  | cons node rest => exact .cons (renames_self x node) (renamesAll_self x rest)

theorem renamesBranches_self (x : String) (branches : List (Condition × List Node)) :
    RenamesBranches x x branches branches := by
  cases branches with
  | nil => exact .nil
  | cons branch rest =>
    obtain ⟨test, body⟩ := branch
    exact .cons (test.renames_self x) (renamesAll_self x body) (renamesBranches_self x rest)

end

end Node

theorem Marker.name_renameHead {y : String} (trimmed : Text.trim y.toList = y.toList) (x : String)
    (m : Marker) : Marker.name ⟨renameHead x y m.name⟩ = renameHead x y m.name := by
  have name : m.name.toList = Text.trim m.raw.toList := String.toList_ofList
  suffices h : Text.trim (renameHead x y m.name).toList = (renameHead x y m.name).toList by
    rw [Marker.name, h, String.ofList_toList]
  by_cases own : headSegment m.name = x
  · have whole : Text.trim m.name.toList = m.name.toList := by rw [name, Text.trim_trim]
    rw [renameHead, if_pos own, String.toList_append, String.toList_ofList]
    exact Text.trim_append_dropWhile trimmed whole
  · rw [Text.renameHead_of_ne own, name, Text.trim_trim]

namespace Node

variable {y : String}

mutual

theorem exists_renames (trimmed : Text.trim y.toList = y.toList) (x : String) (node : Node) :
    ∃ other, Renames x y node other := by
  cases node with
  | text t =>
    let rename (fragment : Marker × String) : Marker × String :=
      (⟨renameHead x y fragment.1.name⟩, fragment.2)
    refine ⟨.text ⟨t.head, t.rest.map rename⟩, .text ?_ ?_⟩
    · simp [MarkedText.fragments, rename]
    · simp [MarkedText.markers, rename, Marker.name_renameHead trimmed]
  | conditional test body =>
    obtain ⟨more, renamed⟩ := exists_renamesAll trimmed x body
    exact ⟨.conditional { test with expr := test.expr.rename x y } more,
      .conditional ⟨rfl, rfl⟩ renamed⟩
  | choose branches otherwise =>
    obtain ⟨others, first⟩ := exists_renamesBranches trimmed x branches
    obtain ⟨default, last⟩ := exists_renamesAll trimmed x otherwise
    exact ⟨_, .choose first last⟩
  | forEach loop body =>
    by_cases bound : loop.item = x ∨ loop.index = x
    · exact ⟨_, .shadow bound⟩
    · obtain ⟨item, index⟩ := not_or.1 bound
      obtain ⟨more, renamed⟩ := exists_renamesAll trimmed x body
      exact ⟨_, .forEach item index renamed⟩
  | whereClause body =>
    obtain ⟨more, renamed⟩ := exists_renamesAll trimmed x body
    exact ⟨_, .whereClause renamed⟩
  | setClause body =>
    obtain ⟨more, renamed⟩ := exists_renamesAll trimmed x body
    exact ⟨_, .setClause renamed⟩
  | print print => exact ⟨_, .print⟩
  | sequence body =>
    obtain ⟨more, renamed⟩ := exists_renamesAll trimmed x body
    exact ⟨_, .sequence renamed⟩

theorem exists_renamesAll (trimmed : Text.trim y.toList = y.toList) (x : String)
    (nodes : List Node) : ∃ others, RenamesAll x y nodes others := by
  cases nodes with
  | nil => exact ⟨[], .nil⟩
  | cons node rest =>
    obtain ⟨other, first⟩ := exists_renames trimmed x node
    obtain ⟨others, more⟩ := exists_renamesAll trimmed x rest
    exact ⟨_, .cons first more⟩

theorem exists_renamesBranches (trimmed : Text.trim y.toList = y.toList) (x : String)
    (branches : List (Condition × List Node)) : ∃ others, RenamesBranches x y branches others := by
  cases branches with
  | nil => exact ⟨[], .nil⟩
  | cons branch rest =>
    obtain ⟨test, body⟩ := branch
    obtain ⟨more, renamed⟩ := exists_renamesAll trimmed x body
    obtain ⟨others, following⟩ := exists_renamesBranches trimmed x rest
    exact ⟨({ test with expr := test.expr.rename x y }, more) :: others,
      .cons ⟨rfl, rfl⟩ renamed following⟩

end

end Node

end SqlTemplate
