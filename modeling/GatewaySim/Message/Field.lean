/-! # Message fields

The ten fields that a gateway message may carry, and their wire keys. `ofKey?` reads back exactly
the keys that `key` writes.
-/

namespace GatewaySim

inductive Field where
  | src
  | dest
  | deviceId
  | deviceKey
  | iotId
  | iotKey
  | macAddress
  | uuid
  | dmId
  | request
  deriving DecidableEq, Repr

namespace Field

def all : List Field :=
  [.src, .dest, .deviceId, .deviceKey, .iotId, .iotKey, .macAddress, .uuid, .dmId, .request]

def key : Field → String
  | .src => "src"
  | .dest => "dest"
  | .deviceId => "deviceId"
  | .deviceKey => "deviceKey"
  | .iotId => "iotId"
  | .iotKey => "iotKey"
  | .macAddress => "macAddress"
  | .uuid => "uuid"
  | .dmId => "dmId"
  | .request => "request"

def ofKey? (name : String) : Option Field := all.find? (fun field => field.key = name)

theorem mem_all (field : Field) : field ∈ all := by
  cases field <;> decide

theorem key_injective {a b : Field} (h : a.key = b.key) : a = b := by
  revert h
  cases a <;> cases b <;> decide

@[simp] theorem ofKey?_key (field : Field) : ofKey? field.key = some field := by
  cases field <;> decide

end Field

end GatewaySim
