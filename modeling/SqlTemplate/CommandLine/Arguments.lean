namespace SqlTemplate.CommandLine

inductive OutputFormat : Type
  | table | json
  deriving DecidableEq, Repr, Inhabited

def OutputFormat.ofName? : String → Option OutputFormat
  | "table" => some .table
  | "json" => some .json
  | _ => none

inductive Choice : Type
  | template | params | dialect | config | format | showSql
  deriving DecidableEq, Repr

namespace Choice

def all : List Choice := [.template, .params, .dialect, .config, .format, .showSql]

def name : Choice → String
  | .template => "template"
  | .params => "params"
  | .dialect => "dialect"
  | .config => "config"
  | .format => "format"
  | .showSql => "show-sql"

def letter? : Choice → Option Char
  | .template => some 't'
  | .params => some 'p'
  | .dialect => some 'd'
  | .config => some 'c'
  | .format => some 'f'
  | .showSql => none

def takesValue (c : Choice) : Bool := c != .showSql

def isPath (c : Choice) : Bool := c == .template || c == .params || c == .config

end Choice

structure Argument where
  choice : Choice
  value? : Option (List Char)
  deriving DecidableEq, Repr

def longArgument? (s : List Char) : Option Argument := do
  let written := s.takeWhile (· != '=')
  let choice ← Choice.all.find? fun c => c.name.toList == written
  match s.dropWhile (· != '=') with
  | [] => return ⟨choice, none⟩
  | _ :: value => if choice.takesValue then return ⟨choice, some value⟩ else none

def shortArgument? : List Char → Option Argument
  | [] => none
  | letter :: s => do
    let choice ← Choice.all.find? fun c => c.letter? == some letter
    match s with
    | [] => return ⟨choice, none⟩
    | '=' :: value => return ⟨choice, some value⟩
    | value => return ⟨choice, some value⟩

def argument? : List Char → Option Argument
  | '-' :: '-' :: s => longArgument? s
  | '-' :: s => shortArgument? s
  | _ => none

def isValue : List Char → Bool
  | '-' :: _ :: _ => false
  | _ => true

def choices? : List String → Option (List (Choice × String))
  | [] => some []
  | ["--"] => some []
  | [arg] => do
    let a ← argument? arg.toList
    match a.value? with
    | some value => return [(a.choice, String.ofList value)]
    | none => if a.choice.takesValue then none else return [(a.choice, "")]
  | arg :: next :: rest => do
    let a ← argument? arg.toList
    match a.value? with
    | some value => return (a.choice, String.ofList value) :: (← choices? (next :: rest))
    | none =>
      if !a.choice.takesValue then return (a.choice, "") :: (← choices? (next :: rest))
      else if isValue next.toList then return (a.choice, next) :: (← choices? rest)
      else none

structure Arguments where
  template : String
  params : Option String
  dialect : Option String
  config : Option String
  showSql : Bool
  format : OutputFormat
  deriving DecidableEq, Repr

namespace Arguments

def ofChoices? (choices : List (Choice × String)) : Option Arguments := do
  if (choices.map (·.1)).eraseDups.length ≠ choices.length then none
  if choices.any fun (c, value) => c.isPath && value.isEmpty then none
  let format ← match choices.lookup .format with
    | some name => OutputFormat.ofName? name
    | none => some .table
  return ⟨← choices.lookup .template, choices.lookup .params, choices.lookup .dialect,
    choices.lookup .config, (choices.lookup .showSql).isSome, format⟩

def ofList? (args : List String) : Option Arguments := do ofChoices? (← choices? args)

end Arguments
end SqlTemplate.CommandLine
