/-!
Templates as trees of nodes. The same shape serves for a template as it is written, whose texts
and tests are strings, and for one whose texts and tests are read.
-/

namespace SqlTemplate

/-- Where a loop takes its elements from, the names that it binds them to, and what it writes
around and between them. -/
structure Loop where
  collection : String
  item : String
  index : String
  opening : String
  separator : String
  closing : String
  deriving DecidableEq, Repr

structure Print where
  name : String
  format : Option String
  before : String
  after : String
  deriving DecidableEq, Repr

/-- `otherwise` is empty where a choice has no default. A sequence holds several nodes in the place
of one. -/
inductive Tree (Text Test : Type) : Type
  | text : Text → Tree Text Test
  | conditional : Test → (body : List (Tree Text Test)) → Tree Text Test
  | choose : (branches : List (Test × List (Tree Text Test))) →
      (otherwise : List (Tree Text Test)) → Tree Text Test
  | forEach : Loop → (body : List (Tree Text Test)) → Tree Text Test
  | whereClause : (body : List (Tree Text Test)) → Tree Text Test
  | setClause : (body : List (Tree Text Test)) → Tree Text Test
  | print : Print → Tree Text Test
  | sequence : (body : List (Tree Text Test)) → Tree Text Test

namespace Tree

variable {Text Test : Type}

def labelled (name value : String) : String := " " ++ name ++ "=\"" ++ value ++ "\""

def element (tag attributes content : String) : String :=
  "<" ++ tag ++ attributes ++ ">" ++ content ++ "</" ++ tag ++ ">"

def printElement (p : Print) : String :=
  let format := match p.format with
    | some f => labelled "fmt" f
    | none => ""
  p.before ++ "<print" ++ format ++ labelled "value" p.name ++ " />" ++ p.after

def loopAttributes (l : Loop) : String :=
  labelled "collection" l.collection ++ labelled "index" l.index ++ labelled "item" l.item
    ++ labelled "open" l.opening ++ labelled "separator" l.separator
    ++ labelled "close" l.closing

mutual

def describe (text : Text → String) (test : Test → String) : Tree Text Test → String
  | .text t => text t
  | .conditional t body => element "if" (labelled "test" (test t)) (describeAll text test body)
  | .choose branches otherwise =>
    element "choose" "" (describeBranches text test branches
      ++ (if otherwise.isEmpty then ""
          else element "otherwise" "" (describeAll text test otherwise)))
  | .forEach l body => element "foreach" (loopAttributes l) (describeAll text test body)
  | .whereClause body => element "where" "" (describeAll text test body)
  | .setClause body => element "set" "" (describeAll text test body)
  | .print p => printElement p
  | .sequence body => describeAll text test body

def describeAll (text : Text → String) (test : Test → String) :
    List (Tree Text Test) → String
  | [] => ""
  | node :: rest => describe text test node ++ describeAll text test rest

def describeBranches (text : Text → String) (test : Test → String) :
    List (Test × List (Tree Text Test)) → String
  | [] => ""
  | (t, body) :: rest =>
    element "when" (labelled "test" (test t)) (describeAll text test body)
      ++ describeBranches text test rest

end

theorem describeAll_append (text : Text → String) (test : Test → String)
    (nodes more : List (Tree Text Test)) :
    describeAll text test (nodes ++ more)
      = describeAll text test nodes ++ describeAll text test more := by
  induction nodes with
  | nil => simp [describeAll]
  | cons node nodes ih => simp only [List.cons_append, describeAll, ih, String.append_assoc]

end Tree
end SqlTemplate
