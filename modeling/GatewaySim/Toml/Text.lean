import GatewaySim.Text.Hexadecimal
import GatewaySim.Toml.Space

/-! # Quoted texts in TOML

A text is written in double quotes, where a backslash begins an escape, or in single quotes, where
every character stands for itself. With three quotes on either side it may extend over several
lines; a line break directly behind the opening quotes does not belong to it, and in double quotes a
backslash at the end of a line joins it to what follows.
-/

namespace GatewaySim.Toml

def readHex : Nat → Nat → List Char → Option (Nat × List Char)
  | 0, value, text => some (value, text)
  | _ + 1, _, [] => none
  | count + 1, value, c :: rest =>
    match Text.hexValue? c with
    | some digit => readHex count (16 * value + digit) rest
    | none => none

theorem readHex_length_le {count start value : Nat} {text rest : List Char}
    (h : readHex count start text = some (value, rest)) : rest.length ≤ text.length := by
  induction count generalizing start text with
  | zero =>
    cases h
    exact Nat.le_refl _
  | succ count ih =>
    cases text with
    | nil => cases h
    | cons c text =>
      unfold readHex at h
      split at h
      next => exact Nat.le_succ_of_le (ih h)
      next => cases h

def hexEscape? (c : Char) : Option Nat :=
  if c = 'x' then some 2 else if c = 'u' then some 4 else if c = 'U' then some 8 else none

def shortEscape? (c : Char) : Option Char :=
  if c = '"' ∨ c = '\\' then some c
  else if c = 'b' then some '\x08'
  else if c = 't' then some '\t'
  else if c = 'n' then some '\n'
  else if c = 'f' then some '\x0c'
  else if c = 'r' then some '\r'
  else if c = 'e' then some '\x1b'
  else none

def readEscape (text : List Char) : Option (Char × Rest text) :=
  match text with
  | [] => none
  | c :: rest =>
    match hexEscape? c with
    | some count =>
      match h : readHex count 0 rest with
      | some (code, behind) =>
        if code.isValidChar then
          some (Char.ofNat code, ⟨behind, Nat.lt_succ_of_le (readHex_length_le h)⟩)
        else none
      | none => none
    | none => (shortEscape? c).map fun value => (value, .tail c rest)

/-- Reads a text in double quotes up to the closing one; `read` holds what has been read, last
first. -/
def readBasicFrom (read : List Char) (text : List Char) : Option (String × Rest text) :=
  match text with
  | [] => none
  | c :: rest => do
    let start := Rest.tail c rest
    if c = '"' then some (String.ofList read.reverse, start)
    else if c = '\\' then
      let (value, behind) ← readEscape rest
      let (content, last) ← readBasicFrom (value :: read) behind.1
      some (content, start.within (behind.within last))
    else if isPlain c then
      let (content, last) ← readBasicFrom (c :: read) rest
      some (content, start.within last)
    else none
termination_by text.length
decreasing_by
  · exact Nat.lt_succ_of_lt behind.2
  · exact Nat.lt_succ_self _

def isLiteral (c : Char) : Bool := isPlain c && c != '\''

def readLiteral (text : List Char) : Option (String × Rest text) :=
  match readMark '\'' (text.dropWhile isLiteral) with
  | some rest =>
    some (String.ofList (text.takeWhile isLiteral),
      rest.widen (length_dropWhile_le isLiteral text))
  | none => none

/-- Reads the three quotes that close a block. Up to two more may precede them as its last
characters. -/
def readClosing (quote : Char) (text : List Char) : Option (List Char × Rest text) :=
  let count := min 5 (text.takeWhile (· = quote)).length
  if closed : 3 ≤ count then
    some (List.replicate (count - 3) quote, ⟨text.drop count, by
      have := (List.takeWhile_sublist (l := text) (· = quote)).length_le
      rw [List.length_drop]
      omega⟩)
  else none

/-- Reads a line break that a backslash joins, with the blank lines and blanks around it. -/
def readJoin (text : List Char) : Option { rest : List Char // rest.length ≤ text.length } :=
  match readBreak (skipBlanks text) with
  | some rest =>
    some ⟨skipBlankLines rest.1, Nat.le_trans (skipBlankLines_length_le _)
      (Nat.le_of_lt (Nat.lt_of_lt_of_le rest.2 (skipBlanks_length_le _)))⟩
  | none => none

/-- Whether a character may stand for itself in a block before the given text. -/
def fitsBlock (c : Char) (rest : List Char) : Bool :=
  isPlain c || c = '\n' || (c = '\r' && rest.head? == some '\n')

/-- Reads a block up to its closing quotes; `read` holds what has been read, last first. -/
def readBlockFrom (quote : Char) (read : List Char) (text : List Char) :
    Option (String × Rest text) :=
  match readClosing quote text with
  | some (quotes, rest) => some (String.ofList (read.reverse ++ quotes), rest)
  | none =>
    match text with
    | [] => none
    | c :: rest => do
      let start := Rest.tail c rest
      if c = '\\' ∧ quote = '"' then
        match readJoin rest with
        | some behind =>
          let (content, last) ← readBlockFrom quote read behind.1
          some (content, (last.widen behind.2).push c)
        | none =>
          let (value, behind) ← readEscape rest
          let (content, last) ← readBlockFrom quote (value :: read) behind.1
          some (content, start.within (behind.within last))
      else if fitsBlock c rest then
        let (content, last) ← readBlockFrom quote (c :: read) rest
        some (content, start.within last)
      else none
termination_by text.length
decreasing_by
  · exact Nat.lt_succ_of_le behind.2
  · exact Nat.lt_succ_of_lt behind.2
  · exact Nat.lt_succ_self _

def readBlock (quote : Char) (text : List Char) : Option (String × Rest text) :=
  match readBreak text with
  | some rest =>
    (readBlockFrom quote [] rest.1).map fun (content, behind) => (content, rest.within behind)
  | none => readBlockFrom quote [] text

def readLine (text : List Char) : Option (String × Rest text) :=
  match text with
  | '"' :: rest => (readBasicFrom [] rest).map fun (content, behind) => (content, behind.push _)
  | '\'' :: rest => (readLiteral rest).map fun (content, behind) => (content, behind.push _)
  | _ => none

def readQuoted (text : List Char) : Option (String × Rest text) :=
  match text with
  | '"' :: '"' :: '"' :: rest => (readBlock '"' rest).map fun (content, behind) =>
      (content, ((behind.push _).push _).push _)
  | '\'' :: '\'' :: '\'' :: rest => (readBlock '\'' rest).map fun (content, behind) =>
      (content, ((behind.push _).push _).push _)
  | text => readLine text

end GatewaySim.Toml
