import GatewaySim.Text.CaseTables

/-! # Lower case

The lower-case form of a text in all alphabets. Letters are changed one by one, with two
exceptions: the dotted capital I becomes two characters, and a capital sigma takes its final form
at the end of a word.
-/

namespace GatewaySim.Text

def CaseRun.contains (run : CaseRun) (code : Nat) : Bool :=
  run.first ≤ code && code ≤ run.last && (code - run.first) % run.stride = 0

/-- The lower-case form of a character that has one of one character, else the character. -/
def lowerChar (c : Char) : Char :=
  if c.toNat < 0x80 then c.toLower
  else
    match caseRuns.find? fun run => run.contains c.toNat with
    | some run => Char.ofNat (c.toNat + run.shift).toNat
    | none => c

/-- Whether a text, read from a letter outwards, goes on with the letter's word. -/
def continuesWord (text : List Char) : Bool :=
  match text.dropWhile caseIgnorable.contains with
  | c :: _ => cased.contains c
  | [] => false

/-- The lower-case form of a text; `before` is the text in front of it, last character first. -/
def lowerFrom (before : List Char) : List Char → List Char
  | [] => []
  | c :: rest =>
    let changed :=
      if c = 'İ' then ['i', '\u0307']
      else if c = 'Σ' then
        if continuesWord before && !continuesWord rest then ['ς'] else ['σ']
      else [lowerChar c]
    changed ++ lowerFrom (c :: before) rest

def lower (text : String) : String := String.ofList (lowerFrom [] text.toList)

end GatewaySim.Text
