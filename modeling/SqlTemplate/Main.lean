import SqlTemplate.CommandLine.Run

open SqlTemplate CommandLine

def environmentNames : List String :=
  ["DYNSQL_DIALECT", "DYNSQL_SHOW_SQL", "dynsql_dialect", "dynsql_show_sql"]

def failureMessage : Failure → String
  | .unreadable path => path ++ " cannot be read"
  | .malformedParams path => path ++ " is not JSON"
  | .failed e => e.message

def main (args : List String) : IO UInt32 := do
  let mut contents : List (String × String) := []
  for path in paths Settings.FileFormat.builtin args do
    try contents := (path, ← IO.FS.readFile path) :: contents
    catch _ => pure ()
  let mut env : Environment := []
  for name in environmentNames do
    if let some value ← IO.getEnv name then env := (name, value) :: env
  let outcome := run Settings.FileFormat.builtin (fun path => contents.lookup path) env args
  IO.print outcome.stdout
  match outcome.failure? with
  | some failure => IO.eprintln ("Error: " ++ failureMessage failure)
  | none => if outcome.exitCode = 2 then IO.eprintln "error: the arguments are not understood"
  return outcome.exitCode.toUInt32
