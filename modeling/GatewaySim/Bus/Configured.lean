import GatewaySim.Bus.Dispatch
import GatewaySim.Config.Section

/-! # Configured buses

The hop limit of a bus may be configured as an integer, which is held within the limits of its type.
-/

namespace GatewaySim.Bus

def hopLimitOf (wanted : Int) : UInt32 :=
  UInt32.ofNat (min wanted.toNat (UInt32.size - 1))

def ofConfig (part : Config) : Bus :=
  match part.getInteger "hop-limit" with
  | .ok wanted => { hopLimit := hopLimitOf wanted }
  | .error _ => { hopLimit := hopLimitOf defaultHopLimit }

end GatewaySim.Bus
