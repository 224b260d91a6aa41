import GatewaySim.Config.Query

/-! # Settings of a simulation

Which of its instruments a simulation has, and where it writes its files.
-/

namespace GatewaySim

structure Settings where
  /-- Whether events are traced on the console. -/
  traced : Bool := true
  /-- The file that statistics are written to, if any. -/
  statisticsFile : Option String := none
  /-- The folder that cascades are recorded in, if any. -/
  recordFolder : Option String := none
  deriving DecidableEq, Repr

namespace Settings

/-- A single text that a part of the configuration holds: under the given key if it is a table, and
as the first item if it is an array. -/
def textIn? (key : String) (value : Config.Value) : Option String :=
  let held := match value with
    | .table _ entries => Config.Entries.get? entries key
    | .array _ items => items.head?
    | .scalar .. => none
  held.bind fun value => value.toText.toOption

def text? (config : Config) (part key : String) : Option String :=
  (config.value? ⟨part, []⟩).bind (textIn? key)

/-- The settings in a configuration. Cascades are recorded only in a folder that exists. -/
def ofConfig (config : Config) (isFolder : String → Bool) : Settings where
  traced := match config.getBoolean "console.enabled" with
    | .ok enabled => enabled
    | .error _ => true
  statisticsFile := text? config "monitor" "output"
  recordFolder := (text? config "record" "path").filter isFolder

end Settings

end GatewaySim
