import GatewaySim.Simulation.Basic

/-! # Workspaces

The files and folders around a simulation. A path leads from folder to folder, from the root if it
begins with a slash and from the working directory if not; one that passes through something that is
not a folder leads nowhere, and writing there has no effect.
-/

namespace GatewaySim

/-- Folders and files, by the names on the way to them from the root. -/
structure Workspace where
  /-- The folder in which paths begin that do not begin at the root. -/
  working : List String := ["work"]
  folders : List (List String) := []
  files : List (List String × String) := []
  deriving DecidableEq, Repr

namespace Workspace

def greatestName : Nat := 255

/-- The number of bytes from which on a path is too long. -/
def pathLimit : Nat := 4096

/-- Whether there is a folder; all on the way to the working directory are folders. -/
def hasFolder (workspace : Workspace) (place : List String) : Bool :=
  place.isPrefixOf workspace.working || workspace.folders.contains place

def enter (workspace : Workspace) (place : List String) (part : String) : Option (List String) :=
  if part = "" ∨ part = "." then some place
  else if part = ".." then some place.dropLast -- the root lies above itself
  else if workspace.hasFolder (place ++ [part]) then some (place ++ [part])
  else none

def segments (path : String) : List String := (path.toList.splitOn '/').map String.ofList

def parts? (path : String) : Option (List String) :=
  if path.isEmpty || path.contains '\x00' || pathLimit ≤ path.utf8ByteSize then none
  else some (segments path)

def start (workspace : Workspace) (path : String) : List String :=
  if path.startsWith "/" then [] else workspace.working

def folder? (workspace : Workspace) (path : String) : Option (List String) :=
  (parts? path).bind fun parts => parts.foldlM workspace.enter (workspace.start path)

def isFolder (workspace : Workspace) (path : String) : Bool := (workspace.folder? path).isSome

/-- The place at which a path allows a file: its folder must exist, and no folder may be in the
way. -/
def place? (workspace : Workspace) (path : String) : Option (List String) := do
  let parts ← parts? path
  let name ← parts.getLast?
  let folder ← parts.dropLast.foldlM workspace.enter (workspace.start path)
  let place := folder ++ [name]
  if name ∈ ["", ".", ".."] ∨ greatestName < name.utf8ByteSize ∨ workspace.hasFolder place then none
  else some place

def putFile (place : List String) (content : String) :
    List (List String × String) → List (List String × String)
  | [] => [(place, content)]
  | (other, old) :: rest =>
    if other = place then (other, content) :: rest else (other, old) :: putFile place content rest

/-- Writes a file; where that is impossible, nothing happens. -/
def write (workspace : Workspace) (writing : Writing) : Workspace :=
  match workspace.place? writing.path with
  | some place => { workspace with files := putFile place writing.content workspace.files }
  | none => workspace

def addFolder (workspace : Workspace) (path : String) : Workspace :=
  let names := (segments path).filter fun part => part ≠ "" ∧ part ≠ "."
  { workspace with
    folders := workspace.folders ++
      (List.range names.length).map fun n => workspace.start path ++ names.take (n + 1) }

/-- The files in and below the working directory, by the paths that lead to them from there. -/
def listing (workspace : Workspace) : List (String × String) :=
  (workspace.files.filter fun file => workspace.working.isPrefixOf file.1).map
    fun (place, content) => ("/".intercalate (place.drop workspace.working.length), content)

end Workspace

end GatewaySim
