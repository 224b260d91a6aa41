import GatewaySim.Application

/-! # The command line

The program takes no arguments. It reads `gateway.toml` or `gateway.json` in the working directory
and the variables of the environment, prints the trace, and writes the files that it is configured
to write. Files that cannot be written are passed over.
-/

namespace GatewaySim.CommandLine

def readFile? (path : String) : IO (Option String) := do
  try
    return some (← IO.FS.readFile path)
  catch _ => return none

def isFolder (path : String) : IO Bool := do
  if path.isEmpty then return false
  try
    let _ ← IO.FS.Handle.mk (path ++ "/.") .read
    return true
  catch _ => return false

/-- What is in a file, if there is one; nothing can be known of one that cannot be read. -/
def found? (path : String) : IO (Option (Option String)) := do
  try
    return some (some (← IO.FS.readFile path))
  catch
    | .noFileOrDirectory .. => return none
    | _ => return if ← isFolder path then none else some none

def environment : IO (List (String × String)) := do
  let entries := ((← readFile? "/proc/self/environ").getD "").splitOn "\x00"
  return entries.filterMap fun entry =>
    match entry.splitOn "=" with
    | name :: first :: more => some (name, "=".intercalate (first :: more))
    | _ => none

def recordFolder? (surroundings : Application.Surroundings) : IO (Option String) := do
  match Application.plan surroundings with
  | .error _ => return none
  | .ok (config, _) =>
    match Settings.text? config "record" "path" with
    | none => return none
    | some path => return if ← isFolder path then some path else none

def store : Saving IO := fun writing => do
  try
    IO.FS.writeFile writing.path writing.content
    return .ok ()
  catch error => return .error (toString error)

/-- Runs the simulator; the exit code is one if it fails. -/
def run : IO UInt32 := do
  let toml ← found? Application.tomlFile
  let json ← found? Application.jsonFile
  -- the search for the configuration ends at a file that is there, whatever becomes of it
  let unreadable := (toml.or json) matches some none
  let found : Application.Surroundings :=
    { toml := toml.join
      json := json.join
      elsewhere := if unreadable then some (.ok []) else none
      environment := ← environment
      isFolder := fun _ => false }
  let folder ← recordFolder? found
  let outcome ← Application.runOn store { found with isFolder := fun path => some path == folder }
  IO.print outcome.printed
  match outcome.failure with
  | none => return 0
  | some failure =>
    IO.eprintln ("Error: " ++ failure.message)
    failure.causes.forM fun cause => IO.eprintln ("Caused by: " ++ cause)
    return 1

end GatewaySim.CommandLine

def main : IO UInt32 := GatewaySim.CommandLine.run
