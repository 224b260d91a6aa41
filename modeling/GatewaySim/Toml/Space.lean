import GatewaySim.Text.Rest

/-! # Space between the parts of a TOML text

Blanks separate the parts of a line; lines end with a line break, which a comment may precede. Where
a value may extend over several lines, all of these are passed over together.
-/

namespace GatewaySim.Toml

abbrev Reader (α : Type) := (text : List Char) → Option (α × Rest text)

def isBlank (c : Char) : Bool := c = ' ' || c = '\t'

/-- A character that may stand in a comment, or as itself in a quoted text. -/
def isPlain (c : Char) : Bool := c = '\t' || (0x20 ≤ c.toNat && c != '\x7f')

def skipBlanks (text : List Char) : List Char := text.dropWhile isBlank

def skipComment (text : List Char) : List Char :=
  match text with
  | '#' :: rest => rest.dropWhile isPlain
  | _ => text

def readMark (mark : Char) (text : List Char) : Option (Rest text) :=
  match text with
  | [] => none
  | c :: rest => if c = mark then some (.tail c rest) else none

def readBreak (text : List Char) : Option (Rest text) :=
  match text with
  | '\n' :: rest => some (.tail _ rest)
  | '\r' :: '\n' :: rest => some (.push _ (.tail _ rest))
  | _ => none

theorem skipBlanks_length_le (text : List Char) : (skipBlanks text).length ≤ text.length :=
  length_dropWhile_le _ text

theorem skipComment_length_le (text : List Char) : (skipComment text).length ≤ text.length := by
  unfold skipComment
  split
  next rest => exact Nat.le_succ_of_le (length_dropWhile_le _ rest)
  next => exact Nat.le_refl _

/-- What is left of a line behind its blanks and its comment. -/
def skipToEnd (text : List Char) : List Char := skipComment (skipBlanks text)

theorem skipToEnd_length_le (text : List Char) : (skipToEnd text).length ≤ text.length :=
  Nat.le_trans (skipComment_length_le _) (skipBlanks_length_le _)

/-- Reads the end of a line: nothing but blanks and a comment may precede the line break or the end
of the text. -/
def readLineEnd (text : List Char) : Option { rest : List Char // rest.length ≤ text.length } :=
  match readBreak (skipToEnd text) with
  | some rest => some ⟨rest.1, Nat.le_of_lt (Nat.lt_of_lt_of_le rest.2 (skipToEnd_length_le _))⟩
  | none => if (skipToEnd text).isEmpty then some ⟨[], Nat.zero_le _⟩ else none

/-- The text without the blanks, comments and line breaks at its front. -/
def skipSpace (text : List Char) : List Char :=
  match readBreak (skipToEnd text) with
  | some rest => skipSpace rest.1
  | none => skipToEnd text
termination_by text.length
decreasing_by exact Nat.lt_of_lt_of_le rest.2 (skipToEnd_length_le _)

theorem skipSpace_length_le (text : List Char) : (skipSpace text).length ≤ text.length := by
  fun_induction skipSpace text with
  | case1 text rest _ ih =>
    exact Nat.le_trans ih (Nat.le_of_lt (Nat.lt_of_lt_of_le rest.2 (skipToEnd_length_le _)))
  | case2 text _ => exact skipToEnd_length_le _

/-- The text without the blanks and line breaks at its front. -/
def skipBlankLines (text : List Char) : List Char :=
  match readBreak (skipBlanks text) with
  | some rest => skipBlankLines rest.1
  | none => skipBlanks text
termination_by text.length
decreasing_by exact Nat.lt_of_lt_of_le rest.2 (skipBlanks_length_le _)

theorem skipBlankLines_length_le (text : List Char) :
    (skipBlankLines text).length ≤ text.length := by
  fun_induction skipBlankLines text with
  | case1 text rest _ ih =>
    exact Nat.le_trans ih (Nat.le_of_lt (Nat.lt_of_lt_of_le rest.2 (skipBlanks_length_le _)))
  | case2 text _ => exact skipBlanks_length_le _

end GatewaySim.Toml
