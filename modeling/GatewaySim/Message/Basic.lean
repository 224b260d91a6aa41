import GatewaySim.Json.Document
import GatewaySim.Message.Field

/-! # Messages

A message gives some of the ten fields a text. Reading a field after a change sees exactly that
change (`get_set`, `get_erase`), two messages with the same fields are equal (`ext_get`), and the
written form is the compact JSON object of the fields present, in wire order (`document_eq`).
-/

namespace GatewaySim

/-- A message: each of the ten fields is absent or holds a text. -/
structure Message where
  src : Option String := none
  dest : Option String := none
  deviceId : Option String := none
  deviceKey : Option String := none
  iotId : Option String := none
  iotKey : Option String := none
  macAddress : Option String := none
  uuid : Option String := none
  dmId : Option String := none
  request : Option String := none
  deriving DecidableEq, Repr

namespace Message

def empty : Message := {}

def get (m : Message) : Field → Option String
  | .src => m.src
  | .dest => m.dest
  | .deviceId => m.deviceId
  | .deviceKey => m.deviceKey
  | .iotId => m.iotId
  | .iotKey => m.iotKey
  | .macAddress => m.macAddress
  | .uuid => m.uuid
  | .dmId => m.dmId
  | .request => m.request

/-- The message with one field replaced, or removed when the new value is `none`. -/
def put (m : Message) (field : Field) (value : Option String) : Message :=
  match field with
  | .src => { m with src := value }
  | .dest => { m with dest := value }
  | .deviceId => { m with deviceId := value }
  | .deviceKey => { m with deviceKey := value }
  | .iotId => { m with iotId := value }
  | .iotKey => { m with iotKey := value }
  | .macAddress => { m with macAddress := value }
  | .uuid => { m with uuid := value }
  | .dmId => { m with dmId := value }
  | .request => { m with request := value }

def set (m : Message) (field : Field) (value : String) : Message := m.put field (some value)

def erase (m : Message) (field : Field) : Message := m.put field none

def has (m : Message) (field : Field) : Bool := (m.get field).isSome

def holds (m : Message) (field : Field) (value : String) : Bool := m.get field = some value

def entries (m : Message) : List (Field × String) :=
  Field.all.filterMap fun field => (m.get field).map fun value => (field, value)

def isEmpty (m : Message) : Bool := m.entries.isEmpty

/-- The slots of the record in the order of their declaration, each under its own name. -/
def slots (m : Message) : List (String × Option String) :=
  [("src", m.src), ("dest", m.dest), ("deviceId", m.deviceId), ("deviceKey", m.deviceKey),
    ("iotId", m.iotId), ("iotKey", m.iotKey), ("macAddress", m.macAddress), ("uuid", m.uuid),
    ("dmId", m.dmId), ("request", m.request)]

/-- The JSON object of the slots that are filled. -/
def document (m : Message) : Json.Document :=
  .object (m.slots.filterMap fun slot => slot.2.map fun value => (slot.1, .text value))

def text (m : Message) : String := m.document.compactText

@[simp] theorem get_empty (field : Field) : empty.get field = none := by
  cases field <;> rfl

theorem slots_eq (m : Message) :
    m.slots = Field.all.map fun field => (field.key, m.get field) := rfl

/-- The record is written as the fields present, under their keys and in wire order. -/
theorem document_eq (m : Message) :
    m.document = .object (m.entries.map fun entry => (entry.1.key, .text entry.2)) := by
  rw [document, slots_eq, entries, List.filterMap_map, List.map_filterMap]
  simp only [Function.comp_def, Option.map_map]

theorem get_put (m : Message) (field other : Field) (value : Option String) :
    (m.put field value).get other = if other = field then value else m.get other := by
  cases field <;> cases other <;> rfl

theorem get_set (m : Message) (field other : Field) (value : String) :
    (m.set field value).get other = if other = field then some value else m.get other :=
  get_put m field other (some value)

theorem get_erase (m : Message) (field other : Field) :
    (m.erase field).get other = if other = field then none else m.get other :=
  get_put m field other none

/-- Messages that agree on every field are equal. -/
theorem ext_get {a b : Message} (h : ∀ field, a.get field = b.get field) : a = b := by
  cases a
  cases b
  simp only [Message.mk.injEq]
  exact ⟨h .src, h .dest, h .deviceId, h .deviceKey, h .iotId, h .iotKey, h .macAddress, h .uuid,
    h .dmId, h .request⟩

end Message

end GatewaySim
