import GatewaySim.Bus.Module

/-! # Bus events and cascades

Everything that happens on the bus is an event: a message is published, a module's rule matches a
publication, or a derived message is rejected because it lies beyond the hop limit. A cascade is the
list of events that one seed message leads to.
-/

namespace GatewaySim

/-- The identity of a module on its bus: its position in registration order. -/
abbrev ModuleId := Nat

def ModuleId.text (id : ModuleId) : String := "#" ++ toString id

structure Publication where
  /-- The position among the publications of its cascade. -/
  index : Nat
  /-- The number of derivations that lead from the seed to the message. -/
  hop : UInt32
  sender : ModuleId
  senderName : String
  message : Message
  deriving DecidableEq, Repr

/-- A rule of a module matches a publication. -/
structure Receipt where
  /-- The index of the publication. -/
  publication : Nat
  hop : UInt32
  receiver : ModuleId
  receiverName : String
  rule : String
  message : Message
  deriving DecidableEq, Repr

/-- A derived message is dropped at the hop limit. -/
structure Rejection where
  /-- The hop that the message would have had. -/
  hop : UInt32
  limit : UInt32
  sender : ModuleId
  senderName : String
  message : Message
  deriving DecidableEq, Repr

inductive Event where
  | published (publication : Publication)
  | received (receipt : Receipt)
  | rejected (rejection : Rejection)
  deriving DecidableEq, Repr

namespace Event

def publication? : Event → Option Publication
  | .published publication => some publication
  | _ => none

def receipt? : Event → Option Receipt
  | .received receipt => some receipt
  | _ => none

def rejection? : Event → Option Rejection
  | .rejected rejection => some rejection
  | _ => none

def moduleName : Event → String
  | .published publication => publication.senderName
  | .received receipt => receipt.receiverName
  | .rejected rejection => rejection.senderName

def message : Event → Message
  | .published publication => publication.message
  | .received receipt => receipt.message
  | .rejected rejection => rejection.message

end Event

structure Cascade where
  events : List Event := []
  deriving DecidableEq, Repr

namespace Cascade

def publications (cascade : Cascade) : List Publication :=
  cascade.events.filterMap Event.publication?

def receipts (cascade : Cascade) : List Receipt := cascade.events.filterMap Event.receipt?

def rejections (cascade : Cascade) : List Rejection := cascade.events.filterMap Event.rejection?

def receiptsAt (cascade : Cascade) (name : String) : List Receipt :=
  cascade.receipts.filter fun receipt => receipt.receiverName = name

/-- The highest hop of a publication; zero if there is none. -/
def maxHop (cascade : Cascade) : UInt32 :=
  cascade.publications.foldl (fun highest publication => max highest publication.hop) 0

def isComplete (cascade : Cascade) : Bool := cascade.rejections.isEmpty

end Cascade

end GatewaySim
