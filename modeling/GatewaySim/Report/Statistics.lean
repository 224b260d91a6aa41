import GatewaySim.Bus.Event

/-! # Statistics

How often each module name published, received and was rejected. Names are kept in increasing
order, which is also the order in which they are written.
-/

namespace GatewaySim

structure Tally where
  published : Nat := 0
  received : Nat := 0
  rejected : Nat := 0
  deriving DecidableEq, Repr

namespace Tally

def count (tally : Tally) : Event → Tally
  | .published _ => { tally with published := tally.published + 1 }
  | .received _ => { tally with received := tally.received + 1 }
  | .rejected _ => { tally with rejected := tally.rejected + 1 }

def document (tally : Tally) : Json.Document :=
  .object
    [("published", .number tally.published), ("received", .number tally.received),
      ("rejected", .number tally.rejected)]

end Tally

/-- The counts by module name, names in increasing order. -/
structure Statistics where
  entries : List (String × Tally) := []
  deriving DecidableEq, Repr

namespace Statistics

/-- Counts an event under a name, which is added in its place if it is new. -/
def countIn (name : String) (event : Event) : List (String × Tally) → List (String × Tally)
  | [] => [(name, ({} : Tally).count event)]
  | (other, tally) :: rest =>
    if name = other then (other, tally.count event) :: rest
    else if name < other then (name, ({} : Tally).count event) :: (other, tally) :: rest
    else (other, tally) :: countIn name event rest

def count (statistics : Statistics) (event : Event) : Statistics :=
  ⟨countIn event.moduleName event statistics.entries⟩

def tally (statistics : Statistics) (name : String) : Tally :=
  (statistics.entries.lookup name).getD {}

def document (statistics : Statistics) : Json.Document :=
  .object (statistics.entries.map fun entry => (entry.1, entry.2.document))

def fileText (statistics : Statistics) : String := statistics.document.prettyText

end Statistics

end GatewaySim
