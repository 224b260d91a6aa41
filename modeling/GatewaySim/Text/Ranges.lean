/-! # Sets of characters

A set of characters given by ranges of code points, each by its first and last member.
-/

namespace GatewaySim.Text

/-- A set of characters: the ranges of its code points, each with its two ends. -/
structure Ranges where
  ends : Array (Nat × Nat)

namespace Ranges

def ofList (ends : List (Nat × Nat)) : Ranges := ⟨ends.toArray⟩

def contains (ranges : Ranges) (c : Char) : Bool :=
  ranges.ends.any fun range => range.1 ≤ c.toNat && c.toNat ≤ range.2

end Ranges

end GatewaySim.Text
