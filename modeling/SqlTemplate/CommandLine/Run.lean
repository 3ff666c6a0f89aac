import SqlTemplate.CommandLine.Arguments
import SqlTemplate.Settings
import SqlTemplate.Statement
import SqlTemplate.Text.Table

namespace SqlTemplate.CommandLine

inductive Failure : Type
  | unreadable : (path : String) → Failure
  | malformedParams : (path : String) → Failure
  | failed : Error → Failure
  deriving DecidableEq

def loadSettings (formats : List Settings.FileFormat) (files : Files) (env : Environment)
    (args : Arguments) : Except Error Settings := do
  let settings ← Settings.load formats files args.config env
  let dialect ← match args.dialect with
    | some name => Dialect.ofName? name
    | none => .ok settings.dialect
  return ⟨dialect, settings.showSql || args.showSql⟩

def orFail {α : Type} : Except Error α → Except Failure α
  | .ok a => .ok a
  | .error e => .error (.failed e)

def readFile (files : Files) (path : String) : Except Failure String :=
  match files path with
  | some content => .ok content
  | none => .error (.unreadable path)

def loadParams (files : Files) : Option String → Except Failure Parameters
  | none => .ok {}
  | some path => do
    let content ← readFile files path
    match Json.ofText? content with
    | none => .error (.malformedParams path)
    | some json => orFail (Parameters.ofJson? json)

def paramRows (dialect : Dialect) (index : Nat) : List Value → List (List String)
  | [] => []
  | v :: rest =>
    [dialect.placeholder.format index, v.kind.name, v.toText]
      :: paramRows dialect (index + 1) rest

def tableOutput (dialect : Dialect) (r : RenderedSql) : String :=
  let table :=
    if r.params.isEmpty then ""
    else Text.Table.render ["placeholder", "type", "value"] (paramRows dialect 0 r.params) ++ "\n"
  r.sql ++ "\n" ++ table ++ "(" ++ toString r.params.length ++ " params)\n"

def output (format : OutputFormat) (dialect : Dialect) (r : RenderedSql) : String :=
  match format with
  | .table => tableOutput dialect r
  | .json => r.toJson.pretty 0 ++ "\n"

def render (formats : List Settings.FileFormat) (files : Files) (env : Environment)
    (args : Arguments) : Except Failure String := do
  let settings ← orFail (loadSettings formats files env args)
  let template ← readFile files args.template
  let statement ← orFail (Document.ofText? template >>= Statement.ofDocument? .builtin)
  let params ← loadParams files args.params
  let rendered ← orFail (statement.render settings.dialect params.source)
  return output args.format settings.dialect rendered

structure Outcome where
  exitCode : Nat
  stdout : String
  failure? : Option Failure

def run (formats : List Settings.FileFormat) (files : Files) (env : Environment)
    (args : List String) : Outcome :=
  match Arguments.ofList? args with
  | none => ⟨2, "", none⟩
  | some args =>
    match render formats files env args with
    | .ok stdout => ⟨0, stdout, none⟩
    | .error failure => ⟨1, "", some failure⟩

def paths (formats : List Settings.FileFormat) (args : List String) : List String :=
  match Arguments.ofList? args with
  | none => []
  | some args =>
    let settings := match args.config with
      | some path => path :: (Settings.FileFormat.extend formats path).map Prod.snd
      | none => Settings.defaultPaths
    settings ++ [args.template] ++ args.params.toList

end SqlTemplate.CommandLine
