import GatewaySim.Bus.Event

/-! # The console trace

One line of text for each event, and the console that such lines are written to. A console that
does not work swallows what is written to it.
-/

namespace GatewaySim

def Event.traceLine : Event → String
  | .published publication =>
    "PUBLISHED by " ++ publication.senderName ++ "\tContent: " ++ publication.message.text
  | .received receipt =>
    "RECEIVED at " ++ receipt.receiverName ++ "\tContent: " ++ receipt.message.text
  | .rejected rejection =>
    "REJECTED from " ++ rejection.senderName ++ "\tHop limit " ++
      toString rejection.limit.toNat ++ " exceeded\tContent: " ++ rejection.message.text

namespace Trace

def eventText (event : Event) : String := event.traceLine ++ "\n"

def headingText (name : String) : String := "\n" ++ name ++ "\n\n"

def cascadeText (cascade : Cascade) : String := String.join (cascade.events.map eventText)

end Trace

/-- A console: what has been written to it so far, and whether writing to it works. -/
structure Console where
  working : Bool := true
  written : String := ""
  deriving DecidableEq, Repr

namespace Console

def write (console : Console) (text : String) : Console :=
  if console.working then { console with written := console.written ++ text } else console

def heading (console : Console) (name : String) : Console :=
  console.write (Trace.headingText name)

def report (console : Console) (event : Event) : Console :=
  console.write (Trace.eventText event)

def flush (console : Console) : String × Console :=
  (console.written, { console with written := "" })

end Console

end GatewaySim
