import GatewaySim.Gateway.Rules

/-! # The gateway's modules

The six modules of the gateway, in registration order, with the rules each applies.
-/

namespace GatewaySim

inductive GatewayModule where
  | iotHub
  | router
  | idMap
  | simBle
  | dmHub
  | dmWorker
  deriving DecidableEq, Repr

namespace GatewayModule

def all : List GatewayModule := [.iotHub, .router, .idMap, .simBle, .dmHub, .dmWorker]

def name : GatewayModule → String
  | .iotHub => "IoTHub"
  | .router => "Router"
  | .idMap => "IDMAP"
  | .simBle => "SIM_BLE"
  | .dmHub => "DMHUB"
  | .dmWorker => "DMWORKER"

def description : GatewayModule → String
  | .iotHub => "Cloud hub, accepts routed device messages"
  | .router => "Swaps device credentials for hub credentials"
  | .idMap => "Maps device ids to and from MAC addresses"
  | .simBle => "Simulated BLE transport"
  | .dmHub => "Device management hub"
  | .dmWorker => "Device management worker"

def rules : GatewayModule → List (Message → Option Reaction)
  | .iotHub => [Gateway.iotHubArrival]
  | .router => [Gateway.routing]
  | .idMap => [Gateway.deviceIdToMac, Gateway.macToDeviceId]
  | .simBle => [Gateway.advertising]
  | .dmHub => [Gateway.dmHubArrival]
  | .dmWorker => [Gateway.forwarding, Gateway.requesting]

def receive (module : GatewayModule) (m : Message) : List Reaction :=
  module.rules.filterMap fun rule => rule m

def ofName? (text : String) : Option GatewayModule :=
  all.find? (fun module => module.name = text)

def toModule (module : GatewayModule) : Module where
  name := module.name
  description := module.description
  receive := module.receive

end GatewayModule

end GatewaySim
