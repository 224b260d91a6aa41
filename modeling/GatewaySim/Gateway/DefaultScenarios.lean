import GatewaySim.Scenario.Basic

/-! # Built-in scenarios

The three scenarios that are run when none are configured.
-/

namespace GatewaySim.Gateway

/-- A device management request, an advertisement towards the cloud, and a cloud message towards a
device. -/
def defaultScenarios : List Scenario :=
  [{ name := "DM path"
     sender := "DMHUB"
     message := { dest := "BLE", dmId := "name", src := "DMHUB", request := "a DM request" } },
   { name := "IoTHub D2C path"
     sender := "SIM_BLE"
     message := { src := "BLE", macAddress := "01:01", uuid := "UUID" } },
   { name := "IoTHub C2D path"
     sender := "IoTHub"
     message :=
      { src := "IoTHub", dest := "device", uuid := "UUID", deviceId := "a device name" } }]

end GatewaySim.Gateway
