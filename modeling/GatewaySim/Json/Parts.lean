import GatewaySim.Json.ReadError
import GatewaySim.Text.Rest

/-! # The parts of a JSON text

What readers of JSON share: passing over blanks, reading keywords, and the end of the text.
-/

namespace GatewaySim.Json

def isBlank (c : Char) : Bool := c = ' ' || c = '\n' || c = '\t' || c = '\r'

def skipBlanks : List Char → List Char
  | [] => []
  | c :: rest => if isBlank c then skipBlanks rest else c :: rest

theorem skipBlanks_length_le (text : List Char) : (skipBlanks text).length ≤ text.length := by
  induction text with
  | nil => exact Nat.le_refl _
  | cons c rest ih =>
    unfold skipBlanks
    split
    next => exact Nat.le_succ_of_le ih
    next => exact Nat.le_refl _

/-- The first character that is not a blank, and what follows it. -/
def next (text : List Char) : Option (Char × Rest text) :=
  match h : skipBlanks text with
  | [] => none
  | c :: rest => some (c, ⟨rest, by
      have le := skipBlanks_length_le text
      rw [h, List.length_cons] at le
      exact le⟩)

def readKeyword : List Char → List Char → Except ReadError (List Char)
  | [], text => .ok text
  | _ :: _, [] => .error .endInValue
  | letter :: letters, c :: text =>
    if c = letter then readKeyword letters text else .error .expectedKeyword

theorem readKeyword_length_le {letters text rest : List Char}
    (h : readKeyword letters text = .ok rest) : rest.length ≤ text.length := by
  induction letters generalizing text with
  | nil =>
    cases h
    exact Nat.le_refl _
  | cons letter letters ih =>
    cases text with
    | nil => cases h
    | cons c text =>
      unfold readKeyword at h
      split at h
      next => exact Nat.le_succ_of_le (ih h)
      next => cases h

def readEnd (text : List Char) : Except ReadError Unit :=
  if (skipBlanks text).isEmpty then .ok () else .error .trailingCharacters

end GatewaySim.Json
