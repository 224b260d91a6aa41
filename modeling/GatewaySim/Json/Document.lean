import GatewaySim.Json.Quoted

/-! # JSON documents and their two layouts

A `Document` is what this library writes: texts, natural numbers, arrays and objects. `compact`
writes it without blanks on one line; `pretty` indents by two blanks, with each element and member
on a line of its own and empty containers closed at once.
-/

namespace GatewaySim.Json

/-- A JSON value to be written. Members keep the order in which they are given. -/
inductive Document where
  | text (value : String)
  | number (value : Nat)
  | array (items : List Document)
  | object (members : List (String × Document))

namespace Document

def newLine (depth : Nat) : List Char := '\n' :: List.replicate (2 * depth) ' '

mutual

def compact : Document → List Char
  | .text value => quoted value
  | .number value => Nat.toDigits 10 value
  | .array items => '[' :: (compactItems items ++ [']'])
  | .object members => '{' :: (compactMembers members ++ ['}'])

def compactItems : List Document → List Char
  | [] => []
  | [item] => compact item
  | item :: rest => compact item ++ ',' :: compactItems rest

def compactMembers : List (String × Document) → List Char
  | [] => []
  | [(key, value)] => quoted key ++ ':' :: compact value
  | (key, value) :: rest => quoted key ++ ':' :: (compact value ++ ',' :: compactMembers rest)

end

mutual

/-- The document in indented form; `depth` is the depth of the line it starts on. -/
def prettyAt (depth : Nat) : Document → List Char
  | .text value => quoted value
  | .number value => Nat.toDigits 10 value
  | .array [] => ['[', ']']
  | .array items => '[' :: (prettyItems (depth + 1) items ++ newLine depth ++ [']'])
  | .object [] => ['{', '}']
  | .object members => '{' :: (prettyMembers (depth + 1) members ++ newLine depth ++ ['}'])

def prettyItems (depth : Nat) : List Document → List Char
  | [] => []
  | [item] => newLine depth ++ prettyAt depth item
  | item :: rest => newLine depth ++ prettyAt depth item ++ ',' :: prettyItems depth rest

def prettyMembers (depth : Nat) : List (String × Document) → List Char
  | [] => []
  | [(key, value)] => newLine depth ++ quoted key ++ ':' :: ' ' :: prettyAt depth value
  | (key, value) :: rest =>
    newLine depth ++ quoted key ++ ':' :: ' ' :: prettyAt depth value ++ ',' ::
      prettyMembers depth rest

end

def compactText (document : Document) : String := String.ofList document.compact

/-- The indented document, as text, without a final line break. -/
def prettyText (document : Document) : String := String.ofList (document.prettyAt 0)

end Document

end GatewaySim.Json
