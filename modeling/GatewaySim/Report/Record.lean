import GatewaySim.Bus.Event
import GatewaySim.Scenario.Basic

/-! # Cascade records

The written form of a cascade: an object with the list of events, each an object that names its
kind first. Messages, names and numbers are written in full, so a record can be read back.
-/

namespace GatewaySim

def Event.document : Event → Json.Document
  | .published publication =>
    .object
      [("event", .text "published"),
        ("index", .number publication.index),
        ("hop", .number publication.hop.toNat),
        ("sender", .number publication.sender),
        ("sender_name", .text publication.senderName),
        ("message", publication.message.document)]
  | .received receipt =>
    .object
      [("event", .text "received"),
        ("publication", .number receipt.publication),
        ("hop", .number receipt.hop.toNat),
        ("receiver", .number receipt.receiver),
        ("receiver_name", .text receipt.receiverName),
        ("rule", .text receipt.rule),
        ("message", receipt.message.document)]
  | .rejected rejection =>
    .object
      [("event", .text "rejected"),
        ("hop", .number rejection.hop.toNat),
        ("limit", .number rejection.limit.toNat),
        ("sender", .number rejection.sender),
        ("sender_name", .text rejection.senderName),
        ("message", rejection.message.document)]

def Cascade.document (cascade : Cascade) : Json.Document :=
  .object [("events", .array (cascade.events.map Event.document))]

def Cascade.recordText (cascade : Cascade) : String := cascade.document.prettyText

def Scenario.recordName (scenario : Scenario) (number : Nat) : String :=
  toString number ++ "-" ++ scenario.slug ++ ".json"

end GatewaySim
