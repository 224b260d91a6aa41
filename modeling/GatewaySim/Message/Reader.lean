import GatewaySim.Json.Members
import GatewaySim.Message.Basic

/-! # Reading messages

A message is read from a JSON object: each field may occur once, as a text or as null, which stands
for its absence; members with other keys are passed over. An array of at most ten texts or nulls is
read as the fields in wire order.
-/

namespace GatewaySim.Message

open Json

/-- Reads the value of a field: a text, or null for an absent field. -/
def readValue (text : List Char) : Except ReadError (Option String × Rest text) :=
  match next text with
  | none => .error .endInValue
  | some (c, rest) =>
    if c = '"' then
      match readText rest.1 with
      | .error e => .error e
      | .ok (value, behind) => .ok (some value, rest.within behind)
    else if c = 'n' then
      match h : readKeyword ['u', 'l', 'l'] rest.1 with
      | .error e => .error e
      | .ok behind =>
        .ok (none, ⟨behind, Nat.lt_of_le_of_lt (readKeyword_length_le h) rest.2⟩)
    else .error (mismatch "a string" c rest.1)

/-- Reads the members of an object up to its end: `first` until one has been read, `seen` the fields
that have occurred so far, and `read` the message that they make up. -/
def readMembers (first : Bool) (seen : List Field) (read : Message) (text : List Char) :
    Except ReadError (Message × List Char) :=
  match nextMember first text with
  | .error e => .error e
  | .ok (.closed rest) => .ok (read, rest.1)
  | .ok (.key name rest) =>
    match Field.ofKey? name with
    | some field =>
      if field ∈ seen then .error (.repeatedKey name)
      else
        match readColon rest.1 with
        | .error e => .error e
        | .ok value =>
          match readValue value.1 with
          | .error e => .error e
          | .ok (content, behind) =>
            readMembers false (field :: seen) (read.put field content) behind.1
    | none =>
      match readColon rest.1 with
      | .error e => .error e
      | .ok value =>
        match _h : skipValue [] value.1 with
        | .error e => .error e
        | .ok behind => readMembers false seen read behind
termination_by text.length
decreasing_by
  · exact Nat.lt_trans behind.2 (Nat.lt_trans value.2 rest.2)
  · exact Nat.lt_trans (skipValue_length_lt _h) (Nat.lt_trans value.2 rest.2)

/-- Reads the items of an array as the given fields: `first` until one has been read, and `read` the
message that the fields so far make up. -/
def readItems (first : Bool) (read : Message) :
    List Field → List Char → Except ReadError (Message × List Char)
  | [], text => (readArrayEnd text).map fun rest => (read, rest)
  | field :: fields, text =>
    match nextItem first text with
    | .error e => .error e
    | .ok (.closed rest) => .ok (read, rest.1)
    | .ok (.item start) =>
      match readValue start.1 with
      | .error e => .error e
      | .ok (content, behind) => readItems false (read.put field content) fields behind.1

def readFrom (text : List Char) : Except ReadError (Message × List Char) :=
  match next text with
  | none => .error .endInValue
  | some (c, rest) =>
    if c = '{' then readMembers true [] Message.empty rest.1
    else if c = '[' then readItems true Message.empty Field.all rest.1
    else .error (mismatch "struct Message" c rest.1)

def read (text : String) : Except ReadError Message :=
  match readFrom text.toList with
  | .error e => .error e
  | .ok (message, rest) =>
    match readEnd rest with
    | .error e => .error e
    | .ok () => .ok message

end GatewaySim.Message
