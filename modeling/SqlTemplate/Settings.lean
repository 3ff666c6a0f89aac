import SqlTemplate.Dialect
import SqlTemplate.Toml.Reader

/-!
Settings: the dialect, and whether rendered statements are logged. They come from a file, and
the environment has priority over it.
-/

namespace SqlTemplate

inductive Setting : Type
  | boolean : Bool → Setting
  | integer : Int → Setting
  | real : Binary64 → Setting
  | text : String → Setting
  | other : Setting
  deriving Inhabited

abbrev Environment := List (String × String)

abbrev Files := String → Option String

namespace Setting

def lowerKey (key : String) : String := String.ofList (key.toList.map Char.toLower)

def isNameChar (c : Char) : Bool := c.isAlphanum || c == '_' || c == '-' || c == ' '

def signed? (s : List Char) : Option Int :=
  let (negative, digits) := match s with
    | '-' :: digits => (true, digits)
    | digits => (false, digits)
  if digits.isEmpty || !digits.all Char.isDigit then none
  else
    let n : Int := Nat.ofDigitChars 10 digits 0
    let n := if negative then -n else n
    if isInteger64 n then some n else none

def integer? : List Char → Option Int
  | '+' :: digits => if digits.head? = some '-' then none else signed? digits
  | s => signed? s

def isIndex (s : List Char) : Bool :=
  let isGap (c : Char) : Bool := c == ' ' || c == '\t'
  let digits := ((s.dropWhile isGap).reverse.dropWhile isGap).reverse
  (signed? digits).isSome

def isPath (s : List Char) : Bool :=
  match s with
  | [] => true
  | '.' :: rest =>
    let name := rest.takeWhile isNameChar
    !name.isEmpty && isPath (rest.drop name.length)
  | '[' :: rest =>
    let index := rest.takeWhile (· != ']')
    isIndex index && rest.length != index.length && isPath (rest.drop (index.length + 1))
  | _ => false
termination_by s.length
decreasing_by all_goals rw [List.length_drop, List.length_cons]; omega

/-- A setting under its key in lower case. A key that steps into a setting makes it one of many
parts. -/
def keyed (key : String) (s : Setting) : String × Setting :=
  let name := key.toList.takeWhile isNameChar
  let path := key.toList.drop name.length
  if path.isEmpty || name.isEmpty || !isPath path then (lowerKey key, s)
  else (lowerKey (String.ofList name), .other)

def ofJson : Json → Setting
  | .boolean b => .boolean b
  | .integer n => if isInteger64 n then .integer n else .real (.ofInt n)
  | .real x => .real x
  | .string s => .text s
  | _ => .other

def ofToml : Toml → Setting
  | .boolean b => .boolean b
  | .integer n => .integer n
  | .real x => .real x
  | .text s => .text s
  | .moment s => .text s
  | _ => .other

def ofText (s : String) : Setting :=
  if lowerKey s = "true" then .boolean true
  else if lowerKey s = "false" then .boolean false
  else match integer? s.toList with
    | some n => .integer n
    | none => match Binary64.ofChars? s.toList with
      | some x => .real x
      | none => .text s

def boolean? : Setting → Option Bool
  | .boolean b => some b
  | .integer n => some (n != 0)
  | .real x => some !x.isZero
  | .text s =>
    if ["1", "true", "on", "yes"].contains (lowerKey s) then some true
    else if ["0", "false", "off", "no"].contains (lowerKey s) then some false
    else none
  | .other => none

def dialect? : Setting → Option Dialect
  | .text s => (Dialect.ofName? s).toOption
  | _ => none

end Setting

structure Settings where
  dialect : Dialect
  showSql : Bool
  deriving DecidableEq, Repr, Inhabited

namespace Settings

def default : Settings := ⟨.postgres, false⟩

def environmentMark : List Char := ['d', 'y', 'n', 's', 'q', 'l', '_']

def environmentKey? (name : String) : Option String :=
  let lower := name.toList.map Char.toLower
  if environmentMark.isPrefixOf lower then
    some (String.ofList (lower.drop environmentMark.length))
  else none

/-- The settings of the environment; of two spellings of a name the later one counts. -/
def ofEnvironment (env : Environment) : List (String × Setting) :=
  (env.filterMap fun (name, value) =>
    (environmentKey? name).map fun key => Setting.keyed key (Setting.ofText value)).reverse

/-- A format of settings files: the extensions that tell it, and the table that a file holds. -/
structure FileFormat where
  extensions : List String
  read? : String → Option (List (String × Setting))

namespace FileFormat

def toml : FileFormat where
  extensions := ["toml"]
  read? content :=
    (Toml.ofText? content).map fun table => table.map fun (key, v) => (key, .ofToml v)

def json : FileFormat where
  extensions := ["json"]
  read? content := match Json.ofText? content with
    | some (.object members) => some (members.map fun (key, v) => (key, .ofJson v))
    | _ => none

def builtin : List FileFormat := [toml, json]

def ofPath? (formats : List FileFormat) (path : String) : Option FileFormat :=
  let name := (Text.splitOn '/' path.toList).getLast?.getD []
  match (Text.splitOn '.' name).reverse with
  | extension :: stem :: more =>
    if stem.isEmpty && more.isEmpty then none
    else formats.find? fun f => f.extensions.contains (String.ofList extension)
  | _ => none

def extend (formats : List FileFormat) (path : String) : List (FileFormat × String) :=
  formats.flatMap fun f => f.extensions.map fun extension => (f, path ++ "." ++ extension)

end FileFormat

def findFile? (formats : List FileFormat) (files : Files) (path : String) :
    Option (FileFormat × String) :=
  match files path with
  | some content => (FileFormat.ofPath? formats path).map fun format => (format, content)
  | none => (FileFormat.extend formats path).findSome? fun (format, path) =>
      (files path).map fun content => (format, content)

def defaultPaths : List String := ["/etc/dynsql/dynsql.toml", "./dynsql.toml"]

/-- The settings of a file: of the one that is named, which has to be there, or of a default
one, which need not. -/
def ofFile? (formats : List FileFormat) (files : Files) (path? : Option String) :
    Option (List (String × Setting)) :=
  match path?.or (defaultPaths.find? fun path => (files path).isSome) with
  | none => some []
  | some path => do
    let (format, content) ← findFile? formats files path
    let table ← format.read? content
    return table.map fun (key, s) => Setting.keyed key s

def get? {α : Type} (settings : List (String × Setting)) (key : String) (default : α)
    (read? : Setting → Option α) : Option α :=
  match settings.lookup key with
  | some s => read? s
  | none => some default

def ofList? (settings : List (String × Setting)) : Option Settings := do
  return ⟨← get? settings "dialect" default.dialect Setting.dialect?,
    ← get? settings "show_sql" default.showSql Setting.boolean?⟩

def load (formats : List FileFormat) (files : Files) (path? : Option String) (env : Environment) :
    Except Error Settings :=
  match ofFile? formats files path? with
  | none => .error .configuration
  | some ofFile => match ofList? (ofEnvironment env ++ ofFile) with
    | some settings => .ok settings
    | none => .error .configuration

end Settings
end SqlTemplate
