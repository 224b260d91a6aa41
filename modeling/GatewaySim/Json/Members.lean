import GatewaySim.Json.Skip

/-! # Walking through containers

The steps by which readers walk through the members of an object and the items of an array, and the
error for a value of another kind than asked for.
-/

namespace GatewaySim.Json

inductive MemberStep (text : List Char) where
  /-- The object has been closed. -/
  | closed (rest : Rest text)
  /-- A key has been read; its colon follows. -/
  | key (name : String) (rest : Rest text)

/-- Reads a key behind its opening quote, as a step through the text that it is part of. -/
def readKey {text : List Char} (rest : Rest text) : Except ReadError (MemberStep text) :=
  match readText rest.1 with
  | .error e => .error e
  | .ok (name, behind) => .ok (.key name (rest.within behind))

/-- The next step through an object; `first` until a member has been read. -/
def nextMember (first : Bool) (text : List Char) : Except ReadError (MemberStep text) :=
  match next text with
  | none => .error .endInObject
  | some (c, rest) =>
    if c = '}' then .ok (.closed rest)
    else if first then
      if c = '"' then readKey rest else .error .keyNotText
    else if c = ',' then
      match next rest.1 with
      | none => .error .endInValue
      | some (c, behind) =>
        if c = '"' then readKey (rest.within behind)
        else if c = '}' then .error .trailingComma
        else .error .keyNotText
    else .error .expectedCommaOrBrace

def readColon (text : List Char) : Except ReadError (Rest text) :=
  match next text with
  | none => .error .endInObject
  | some (c, rest) => if c = ':' then .ok rest else .error .expectedColon

inductive ItemStep (text : List Char) where
  | closed (rest : Rest text)
  | item (start : { start : List Char // start.length ≤ text.length })

/-- The next step through an array; `first` until an item has been read. -/
def nextItem (first : Bool) (text : List Char) : Except ReadError (ItemStep text) :=
  match next text with
  | none => .error .endInArray
  | some (c, rest) =>
    if c = ']' then .ok (.closed rest)
    else if first then .ok (.item ⟨text, Nat.le_refl _⟩)
    else if c = ',' then
      match next rest.1 with
      | none => .error .endInValue
      | some (c, _) =>
        if c = ']' then .error .trailingComma else .ok (.item ⟨rest.1, rest.length_le⟩)
    else .error .expectedCommaOrBracket

def readArrayEnd (text : List Char) : Except ReadError (List Char) :=
  match next text with
  | none => .error .endInArray
  | some (c, rest) =>
    if c = ']' then .ok rest.1
    else if c = ',' then
      match next rest.1 with
      | some (']', _) => .error .trailingComma
      | _ => .error .trailingCharacters
    else .error .trailingCharacters

def Number.found : Number → Found
  | .integer value => .integer value
  | .real value => .real value

/-- What is found at the front of a text, which begins with the given character. Containers are not
read any further. -/
def foundAt (c : Char) (rest : List Char) : Except ReadError Found :=
  if c = '[' then .ok .sequence
  else if c = '{' then .ok .map
  else if c = '"' then (readText rest).map fun read => .text read.1
  else if c = '-' then (readNumber true rest).map fun read => read.1.found
  else if c.isDigit then (readNumber false (c :: rest)).map fun read => read.1.found
  else
    match keywordTail? c with
    | none => .error .expectedValue
    | some letters =>
      (readKeyword letters rest).map fun _ =>
        if c = 'n' then .null else .boolean (c = 't')

/-- The error for a value that begins with the given character, where another kind of value was
expected. A value that cannot be read is reported as such. -/
def mismatch (expected : String) (c : Char) (rest : List Char) : ReadError :=
  match foundAt c rest with
  | .error e => e
  | .ok found => .unexpected found expected

end GatewaySim.Json
