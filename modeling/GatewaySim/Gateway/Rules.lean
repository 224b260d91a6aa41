import GatewaySim.Bus.Module

/-! # The gateway's routing rules

Eight rules, one function each. A rule gives the reaction to a message that it matches and `none`
otherwise, so each says in one place which fields it asks for and what it changes.
-/

namespace GatewaySim.Gateway

namespace Rule

def terminal : String := "terminal"

def routeToIotHub : String := "route-to-iothub"

def deviceIdToMac : String := "device-id-to-mac"

def macToDeviceId : String := "mac-to-device-id"

def advertise : String := "advertise"

def forwardToDmHub : String := "forward-to-dmhub"

def dmRequestToBle : String := "dm-request-to-ble"

def all : List String :=
  [terminal, routeToIotHub, deviceIdToMac, macToDeviceId, advertise, forwardToDmHub,
    dmRequestToBle]

end Rule

/-- The cloud hub keeps a message that is addressed to it and carries hub credentials. -/
def iotHubArrival (m : Message) : Option Reaction :=
  if m.dest = some "IoTHub" ∧ m.iotId.isSome ∧ m.iotKey.isSome then
    some (.report Rule.terminal)
  else none

/-- A message for the cloud hub, or for nobody in particular, trades its device credentials for
hub credentials. -/
def routing (m : Message) : Option Reaction :=
  if (m.dest = none ∨ m.dest = some "IoTHub") ∧ m.deviceId.isSome ∧ m.deviceKey.isSome then
    some (.derive Rule.routeToIotHub
      { m with
        dest := "IoTHub"
        iotId := "IoTHub"
        iotKey := "IoTHub"
        deviceId := none
        deviceKey := none })
  else none

def deviceIdToMac (m : Message) : Option Reaction :=
  if m.deviceId.isSome then
    some (.derive Rule.deviceIdToMac { m with deviceId := none, macAddress := "01:01" })
  else none

def macToDeviceId (m : Message) : Option Reaction :=
  if m.macAddress.isSome then
    some (.derive Rule.macToDeviceId
      { m with macAddress := none, deviceId := "name", deviceKey := "key" })
  else none

/-- Where a device's answer goes: back to the sender, unless that is absent or empty. -/
def answerTo (sender : Option String) : Option String := sender.filter fun name => name ≠ ""

/-- A device that is named by its address and a characteristic answers with a fresh
advertisement. -/
def advertising (m : Message) : Option Reaction :=
  if m.uuid.isSome ∧ m.macAddress.isSome then
    some (.derive Rule.advertise
      { src := "BLE", dest := answerTo m.src, macAddress := m.macAddress, uuid := "UUID" })
  else none

/-- The device management hub keeps a message that is addressed to it with device credentials. -/
def dmHubArrival (m : Message) : Option Reaction :=
  if m.dest = some "DMHUB" ∧ m.deviceId.isSome ∧ m.deviceKey.isSome then
    some (.report Rule.terminal)
  else none

/-- The worker passes device credentials that are addressed to it on to the management hub. -/
def forwarding (m : Message) : Option Reaction :=
  if m.dest = some "DMWORKER" ∧ m.deviceId.isSome ∧ m.deviceKey.isSome then
    some (.derive Rule.forwardToDmHub { m with dest := "DMHUB", src := "DMWORKER", uuid := none })
  else none

/-- The worker sends a request for a device out over the radio. -/
def requesting (m : Message) : Option Reaction :=
  if m.dest = some "BLE" ∧ m.request.isSome ∧ m.dmId.isSome then
    some (.derive Rule.dmRequestToBle
      { m with
        src := "DMWORKER"
        deviceId := m.dmId
        uuid := "UUID"
        request := none
        dmId := none })
  else none

end GatewaySim.Gateway
