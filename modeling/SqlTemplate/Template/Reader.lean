import SqlTemplate.Error
import SqlTemplate.Json.Reader
import SqlTemplate.Template.Node

namespace SqlTemplate.Template

open Json (Written)

def fields? (names : List String) : Written → Option (List (String × Written))
  | .object members => do
    let named ← members.mapM fun (name, w) => do return (← name.text?, w)
    let known := named.filter fun (name, _) => names.contains name
    if (known.map (·.1)).eraseDups.length = known.length then some known else none
  | .array items => if items.length ≤ names.length then some (names.zip items) else none
  | _ => none

def tagged? : Written → Option (Written × Written)
  | .object members =>
    match members.filter fun (name, _) => name.text? == some "type" with
    | [(_, tag)] => some (tag, .object members)
    | _ => none
  | .array (tag :: items) => some (tag, .array items)
  | _ => none

def kinds : List (String × List String) :=
  [ ("text", ["content"]),
    ("if", ["test", "children"]),
    ("choose", ["when", "otherwise"]),
    ("foreach", ["collection", "item", "index", "open", "separator", "close", "children"]),
    ("where", ["children"]),
    ("set", ["children"]),
    ("print", ["value", "fmt", "prefix", "suffix"]) ]

def kind? (inner : Bool) : Written → Option (String × List String)
  | .string points => do
    let name ← points.text?
    kinds.find? (·.1 == name)
  | .number n =>
    match n.value? with
    | some (.integer i) => if inner && 0 ≤ i then kinds[i.toNat]? else none
    | _ => none
  | _ => none

def string? : Written → Option String
  | .string points => points.text?
  | _ => none

def items? : Written → Option (List Written)
  | .array items => some items
  | _ => none

def required? {α : Type} (fields : List (String × Written)) (name : String)
    (read? : Written → Option α) : Option α := do read? (← fields.lookup name)

def optional? {α : Type} (fields : List (String × Written)) (name : String) (default : α)
    (read? : Written → Option α) : Option α :=
  match fields.lookup name with
  | some w => read? w
  | none => some default

def nullable? : Written → Option (Option String)
  | .null => some none
  | w => (string? w).map some

def branch? (nodes? : Written → Option (List Template)) (w : Written) :
    Option (String × List Template) := do
  let fields ← fields? ["test", "children"] w
  return (← required? fields "test" string?, ← optional? fields "children" [] nodes?)

def ofFields? (nodes? : Written → Option (List Template)) (kind : String)
    (fields : List (String × Written)) : Option Template :=
  let text (name : String) : Option String := optional? fields name "" string?
  let body : Option (List Template) := optional? fields "children" [] nodes?
  match kind with
  | "text" => do return .text (← required? fields "content" string?)
  | "if" => do return .conditional (← required? fields "test" string?) (← body)
  | "choose" => do
    let branches ← optional? fields "when" [] fun w => do (← items? w).mapM (branch? nodes?)
    return .choose branches (← optional? fields "otherwise" [] nodes?)
  | "foreach" => do
    let loop : Loop := ⟨← text "collection", ← text "item", ← text "index", ← text "open",
      ← text "separator", ← text "close"⟩
    return .forEach loop (← body)
  | "where" => do return .whereClause (← body)
  | "set" => do return .setClause (← body)
  | "print" => do
    let format ← optional? fields "fmt" none nullable?
    return .print ⟨← text "value", format, ← text "prefix", ← text "suffix"⟩
  | _ => none

def ofWritten? (levels : Nat) (inner : Bool) (w : Written) : Option Template :=
  match levels with
  | 0 => none
  | levels + 1 => do
    let (tag, content) ← tagged? w
    let (kind, names) ← kind? inner tag
    let fields ← fields? names content
    ofFields? (fun w => do (← items? w).mapM (ofWritten? levels true)) kind fields

def atDepth? (above : Nat) (w : Written) : Option Template := do
  let _ ← w.data? above
  ofWritten? Written.depthLimit false w

def listOfText? (text : String) : Except Error (List Template) :=
  match (do (← items? (← Written.ofText? text)).mapM (atDepth? 1) : Option (List Template)) with
  | some templates => .ok templates
  | none => .error .serialization

end Template

structure Document where
  id : String
  body : List Template

namespace Document

open Json (Written)

def ofWritten? (w : Written) : Option Document := do
  let fields ← Template.fields? ["id", "body"] w
  let id ← Template.required? fields "id" Template.string?
  let items ← Template.required? fields "body" Template.items?
  return ⟨id, ← items.mapM (Template.atDepth? 2)⟩

def ofText? (text : String) : Except Error Document :=
  match (Written.ofText? text).bind ofWritten? with
  | some document => .ok document
  | none => .error .serialization

end Document
end SqlTemplate
