import GatewaySim.Proofs.Json.Layout
import GatewaySim.Proofs.Message.RoundTrip
import GatewaySim.Report.Record

/-! # Records lose nothing

A record is written from every field of every event, so its text gives away the cascade
(`recordText_eq_iff`): the layout gives away the document, and the document the events, each of
which says first of what kind it is.
-/

namespace GatewaySim

theorem Message.document_injective : Function.Injective Message.document := by
  intro m other same
  have texts : m.text = other.text := congrArg Json.Document.compactText same
  exact text_injective texts

/-- Documents of events say first of what kind they are, and then the fields of that kind. -/
theorem Event.document_injective : Function.Injective Event.document := by
  intro event other same
  cases event <;> cases other <;> try simp [document] at same
  case published.published publication other =>
    cases publication
    cases other
    simpa [UInt32.toNat_inj, Message.document_injective.eq_iff] using same
  case received.received receipt other =>
    cases receipt
    cases other
    simpa [UInt32.toNat_inj, Message.document_injective.eq_iff] using same
  case rejected.rejected rejection other =>
    cases rejection
    cases other
    simpa [UInt32.toNat_inj, Message.document_injective.eq_iff] using same

namespace Cascade

theorem document_injective : Function.Injective Cascade.document := by
  intro cascade other same
  have documents : cascade.events.map Event.document = other.events.map Event.document := by
    simpa [document] using same
  have events := List.map_injective_iff.mpr Event.document_injective documents
  cases cascade
  cases other
  exact congrArg Cascade.mk events

/-- Two cascades are recorded as the same text only if they are the same, event for event. -/
theorem recordText_eq_iff (cascade other : Cascade) :
    cascade.recordText = other.recordText ↔ cascade = other := by
  constructor
  · intro same
    exact document_injective (Json.Document.prettyText_injective same)
  · rintro rfl
    rfl

end Cascade

end GatewaySim
