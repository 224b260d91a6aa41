import GatewaySim.Config.Section
import GatewaySim.Failure
import GatewaySim.Message.Reader
import GatewaySim.Scenario.Basic

/-! # Configured scenarios

A configuration may list scenarios: tables with a sender, a message in JSON and perhaps a name. They
are read in order, and the first one that is at fault decides the failure.
-/

namespace GatewaySim.Scenario

def defaultName (index : Nat) : String := "scenario " ++ toString index

def ofPart (index : Nat) (part : Config) : Except Failure Scenario :=
  let name := match part.getText "name" with
    | .ok name => name
    | .error _ => defaultName index
  match part.getText "sender" with
  | .error cause => .error (.noSender name cause)
  | .ok sender =>
    match part.getText "message" with
    | .error cause => .error (.noMessage name cause)
    | .ok text =>
      match Message.read text with
      | .error cause => .error (.badMessage name cause)
      | .ok message => .ok { name, sender, message }

/-- Reads the scenario that stands at a place in the list. The keys of its table are visited in the
order in which the value has them, which may be any order. -/
def ofValue (index : Nat) (value : Config.Value) : Except Failure Scenario :=
  match value.toTable with
  | .error mismatch => .error (.badEntry index mismatch)
  | .ok entries =>
    match Config.ofEntries entries with
    | .error cause => .error (.config cause)
    | .ok part => ofPart index part

/-- Reads a list of scenarios, of which the first one stands at the given place. -/
def ofValues (index : Nat) : List Config.Value → Except Failure (List Scenario)
  | [] => .ok []
  | value :: rest =>
    match ofValue index value with
    | .error failure => .error failure
    | .ok scenario => (ofValues (index + 1) rest).map (scenario :: ·)

def ofConfig (config : Config) : Except Failure (Option (List Scenario)) :=
  match config.getArray "scenario" with
  | .error _ => .ok none
  | .ok values => (ofValues 0 values).map some

end GatewaySim.Scenario
