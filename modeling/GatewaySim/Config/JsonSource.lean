import GatewaySim.Config.Query
import GatewaySim.Json.Members

/-! # Configurations in JSON

A configuration may be written as a JSON object. Containers may be nested up to `greatestDepth`
deep; of members with the same key, the last one counts.
-/

namespace GatewaySim.Config.JsonSource

open Json

def greatestDepth : Nat := 127

abbrev Reader (α : Type) := (text : List Char) → Except ReadError (α × Rest text)

/-- Reads the items of an array up to its end: `first` until one has been read, and `read` those so
far, last first. -/
def readItems (readItem : Reader Value) (first : Bool) (read : List Value) (text : List Char) :
    Except ReadError (List Value × Rest text) :=
  match nextItem first text with
  | .error e => .error e
  | .ok (.closed rest) => .ok (read.reverse, rest)
  | .ok (.item start) =>
    match readItem start.1 with
    | .error e => .error e
    | .ok (item, rest) =>
      have shorter : rest.1.length < text.length := Nat.lt_of_lt_of_le rest.2 start.2
      match readItems readItem false (item :: read) rest.1 with
      | .error e => .error e
      | .ok (items, behind) => .ok (items, ⟨behind.1, Nat.lt_trans behind.2 shorter⟩)
termination_by text.length

/-- Reads the members of an object up to its end: `first` until one has been read, and `read` those
so far. -/
def readMembers (readItem : Reader Value) (first : Bool) (read : Entries) (text : List Char) :
    Except ReadError (Entries × Rest text) :=
  match nextMember first text with
  | .error e => .error e
  | .ok (.closed rest) => .ok (read, rest)
  | .ok (.key name rest) =>
    match readColon rest.1 with
    | .error e => .error e
    | .ok start =>
      match readItem start.1 with
      | .error e => .error e
      | .ok (item, behind) =>
        let left := rest.within (start.within behind)
        match readMembers readItem false (read.put name item) left.1 with
        | .error e => .error e
        | .ok (members, last) => .ok (members, left.within last)
termination_by text.length
decreasing_by exact left.2

def scalarOf : Number → Scalar
  | .integer value => .integer value
  | .real value => .real value

def readScalar (negative : Bool) (text : List Char) : Except ReadError (Scalar × Rest text) :=
  match h : readNumber negative text with
  | .error e => .error e
  | .ok (number, rest) => .ok (scalarOf number, ⟨rest, readNumber_length_lt h⟩)

def keywordScalar (c : Char) : Scalar := if c = 'n' then .nil else .boolean (c = 't')

/-- Reads a value in which containers may be nested up to the given depth. -/
def readValue (origin : Option Origin) : Nat → Reader Value
  | depth, text =>
    match next text with
    | none => .error .endInValue
    | some (c, rest) =>
      if c = '"' then
        match readText rest.1 with
        | .error e => .error e
        | .ok (content, behind) => .ok (.scalar origin (.text content), rest.within behind)
      else if c = '[' then
        match depth with
        | 0 => .error .tooDeep
        | depth + 1 =>
          match readItems (readValue origin depth) true [] rest.1 with
          | .error e => .error e
          | .ok (items, behind) => .ok (.array origin items, rest.within behind)
      else if c = '{' then
        match depth with
        | 0 => .error .tooDeep
        | depth + 1 =>
          match readMembers (readValue origin depth) true [] rest.1 with
          | .error e => .error e
          | .ok (members, behind) => .ok (.table origin members, rest.within behind)
      else if c = '-' then
        match readScalar true rest.1 with
        | .error e => .error e
        | .ok (content, behind) => .ok (.scalar origin content, rest.within behind)
      else if c.isDigit then
        match readScalar false (c :: rest.1) with
        | .error e => .error e
        | .ok (content, behind) =>
          .ok (.scalar origin content,
            behind.widen (show (c :: rest.1).length ≤ text.length from rest.2))
      else
        match keywordTail? c with
        | none => .error .expectedValue
        | some letters =>
          match h : readKeyword letters rest.1 with
          | .error e => .error e
          | .ok behind =>
            .ok (.scalar origin (keywordScalar c),
              ⟨behind, Nat.lt_of_le_of_lt (readKeyword_length_le h) rest.2⟩)

def readWhole (origin : Option Origin) (text : List Char) : Except ReadError Value :=
  match readValue origin greatestDepth text with
  | .error e => .error e
  | .ok (value, rest) =>
    match readEnd rest.1 with
    | .error e => .error e
    | .ok () => .ok value

def read (origin : Option Origin) (text : String) : Except Error Entries :=
  match readWhole origin text.toList with
  | .ok (.table _ entries) => .ok entries
  | _ => .error .malformed

end GatewaySim.Config.JsonSource
