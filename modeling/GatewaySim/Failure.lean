import GatewaySim.Config.Query
import GatewaySim.Json.ReadError

/-! # Failures

What can go wrong when modules are looked up and scenarios are read or run. A failure has a wording
and, where another error led to it, the wording of that error as its cause.
-/

namespace GatewaySim

inductive Failure where
  /-- There is no gateway module of that name. -/
  | unknownModule (name : String)
  /-- No module of that name is registered. -/
  | notRegistered (name : String)
  /-- An item of the scenario list is not a table. -/
  | badEntry (index : Nat) (cause : Config.Mismatch)
  /-- A scenario has no sender that is a text. -/
  | noSender (scenario : String) (cause : Config.Error)
  /-- A scenario has no message that is a text. -/
  | noMessage (scenario : String) (cause : Config.Error)
  /-- The message of a scenario cannot be read. -/
  | badMessage (scenario : String) (cause : Json.ReadError)
  /-- The configuration is at fault. -/
  | config (cause : Config.Error)
  deriving DecidableEq, Repr

namespace Failure

def message : Failure → String
  | .unknownModule name => "Unknown gateway module " ++ name
  | .notRegistered name => "No module named " ++ name ++ " is registered"
  | .badEntry index cause =>
    "Bad [[scenario]] entry " ++ toString index ++ ": " ++ cause.message
  | .noSender scenario _ => "No sender given for scenario '" ++ scenario ++ "'"
  | .noMessage scenario _ => "No message given for scenario '" ++ scenario ++ "'"
  | .badMessage scenario _ => "Bad message JSON in scenario '" ++ scenario ++ "'"
  | .config cause => cause.message

def causes : Failure → List String
  | .noSender _ cause | .noMessage _ cause => [cause.message]
  | .badMessage _ cause => [cause.message]
  | _ => []

end Failure

end GatewaySim
