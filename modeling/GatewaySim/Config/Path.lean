import GatewaySim.Config.Value
import GatewaySim.Text.Rest

/-! # Paths into a configuration

A path names a place in a configuration: a key at the root, then keys of tables (`.name`) and
positions in arrays (`[index]`), where a negative position counts from the end. Keys in a path are
made of ASCII letters, digits, dashes and underscores.
-/

namespace GatewaySim.Config

inductive Step where
  | key (name : String)
  | index (position : Int)
  deriving DecidableEq, Repr

structure Path where
  root : String
  steps : List Step := []
  deriving DecidableEq, Repr

namespace Path

def isKeyChar (c : Char) : Bool := c.isAlphanum || c = '_' || c = '-'

def readKey (text : List Char) : Option (String × List Char) :=
  let key := text.takeWhile isKeyChar
  if key.isEmpty then none else some (String.ofList key, text.dropWhile isKeyChar)

def isBlank (c : Char) : Bool := c = ' ' || c = '\t'

def readSign (text : List Char) : Int × List Char :=
  match text with
  | '-' :: rest => (-1, rest)
  | _ => (1, text)

def readIndex (text : List Char) : Option (Int × List Char) :=
  let (sign, unsigned) := readSign (text.dropWhile isBlank)
  let digits := unsigned.takeWhile Char.isDigit
  let position := sign * Nat.ofDigitChars 10 digits 0
  match (unsigned.dropWhile Char.isDigit).dropWhile isBlank with
  | ']' :: rest => if digits.isEmpty || !Signed64.fits position then none else some (position, rest)
  | _ => none

theorem readKey_length_le {text rest : List Char} {key : String}
    (h : readKey text = some (key, rest)) : rest.length ≤ text.length := by
  unfold readKey at h
  dsimp only at h
  split at h
  next => cases h
  next =>
    cases h
    exact length_dropWhile_le _ _

theorem readSign_length_le (text : List Char) : (readSign text).2.length ≤ text.length := by
  unfold readSign
  split
  next => exact Nat.le_succ _
  next => exact Nat.le_refl _

theorem readIndex_length_le {text rest : List Char} {position : Int}
    (h : readIndex text = some (position, rest)) : rest.length ≤ text.length := by
  unfold readIndex at h
  dsimp only at h
  split at h
  next closed =>
    split at h
    next => cases h
    next =>
      simp only [Option.some.injEq, Prod.mk.injEq] at h
      obtain ⟨_, rfl⟩ := h
      have shorter := congrArg List.length closed
      rw [List.length_cons] at shorter
      have blanks := length_dropWhile_le isBlank text
      have sign := readSign_length_le (text.dropWhile isBlank)
      have digits := length_dropWhile_le Char.isDigit (readSign (text.dropWhile isBlank)).2
      have behind := length_dropWhile_le isBlank
        ((readSign (text.dropWhile isBlank)).2.dropWhile Char.isDigit)
      omega
  next => cases h

def readSteps (text : List Char) : Option (List Step) :=
  match text with
  | [] => some []
  | '.' :: rest =>
    match _h : readKey rest with
    | none => none
    | some (key, behind) => (readSteps behind).map (.key key :: ·)
  | '[' :: rest =>
    match _h : readIndex rest with
    | none => none
    | some (position, behind) => (readSteps behind).map (.index position :: ·)
  | _ => none
termination_by text.length
decreasing_by
  · exact Nat.lt_succ_of_le (readKey_length_le _h)
  · exact Nat.lt_succ_of_le (readIndex_length_le _h)

def ofText? (text : String) : Option Path :=
  match readKey text.toList with
  | none => none
  | some (root, rest) => (readSteps rest).map fun steps => ⟨root, steps⟩

/-- The path that a text denotes; a text that denotes none is taken as a key at the root. -/
def ofKey (text : String) : Path := (ofText? text).getD ⟨text, []⟩

end Path

end GatewaySim.Config
