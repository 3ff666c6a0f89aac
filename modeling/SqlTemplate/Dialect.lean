import SqlTemplate.Error
import SqlTemplate.Json.Reader

namespace SqlTemplate

inductive Dialect : Type
  | postgres | mysql | sqlite | mssql | oracle
  deriving DecidableEq, Repr, Inhabited

inductive Placeholder : Type
  | question | dollar | atP | colon
  deriving DecidableEq, Repr

namespace Dialect

def name : Dialect → String
  | .postgres => "postgres"
  | .mysql => "mysql"
  | .sqlite => "sqlite"
  | .mssql => "mssql"
  | .oracle => "oracle"

def placeholder : Dialect → Placeholder
  | .postgres => .dollar
  | .mysql => .question
  | .sqlite => .question
  | .mssql => .atP
  | .oracle => .colon

def aliases : Dialect → List String
  | .postgres => ["postgres", "postgresql", "pg"]
  | .mysql => ["mysql"]
  | .sqlite => ["sqlite", "sqlite3"]
  | .mssql => ["mssql", "sqlserver"]
  | .oracle => ["oracle"]

def all : List Dialect := [.postgres, .mysql, .sqlite, .mssql, .oracle]

def ofName? (name : String) : Except Error Dialect :=
  match all.find? fun d => d.aliases.contains (String.ofList (name.toList.map Char.toLower)) with
  | some d => .ok d
  | none => .error (.unknownDialect name)

@[simp] theorem ofName?_name (d : Dialect) : ofName? d.name = .ok d := by
  cases d <;> rfl

def ofJsonText? (text : String) : Except Error Dialect :=
  match Json.Written.ofText? text with
  | some (.string points) =>
    match points.text?.map ofName? with
    | some (.ok d) => .ok d
    | _ => .error .serialization
  | _ => .error .serialization

end Dialect

def Placeholder.format (p : Placeholder) (index : Nat) : String :=
  match p with
  | .question => "?"
  | .dollar => "$" ++ toString (index + 1)
  | .atP => "@p" ++ toString (index + 1)
  | .colon => ":" ++ toString (index + 1)

end SqlTemplate
