/-! # Reading from the front

Readers take a text apart from the front. What a reader leaves of a text carries a proof that it is
shorter than the text, so that a reader which goes on with it comes to an end.
-/

namespace GatewaySim

/-- What is left of a text after something has been read from it. -/
abbrev Rest (text : List Char) := { rest : List Char // rest.length < text.length }

namespace Rest

def tail (c : Char) (rest : List Char) : Rest (c :: rest) := ⟨rest, Nat.lt_succ_self _⟩

/-- What is left of a text, as left of the text with one more character in front. -/
def push {text : List Char} (c : Char) (rest : Rest text) : Rest (c :: text) :=
  ⟨rest.1, Nat.lt_succ_of_lt rest.2⟩

/-- What is left of a text, as left of one that is at least as long. -/
def widen {part text : List Char} (le : part.length ≤ text.length) (rest : Rest part) :
    Rest text :=
  ⟨rest.1, Nat.lt_of_lt_of_le rest.2 le⟩

theorem length_le {text : List Char} (rest : Rest text) : rest.1.length ≤ text.length :=
  Nat.le_of_lt rest.2

/-- What is left of the longer text from which the shorter one was left. -/
def within {text : List Char} (rest : Rest text) (behind : Rest rest.1) : Rest text :=
  widen rest.length_le behind

end Rest

theorem length_dropWhile_le (p : Char → Bool) (text : List Char) :
    (text.dropWhile p).length ≤ text.length := by
  induction text with
  | nil => exact Nat.le_refl _
  | cons c rest ih =>
    rw [List.dropWhile_cons]
    split
    next => exact Nat.le_succ_of_le ih
    next => exact Nat.le_refl _

end GatewaySim
