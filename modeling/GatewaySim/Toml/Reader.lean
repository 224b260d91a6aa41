import GatewaySim.Config.Path
import GatewaySim.Toml.DateTime
import GatewaySim.Toml.Numeral
import GatewaySim.Toml.Table
import GatewaySim.Toml.Text

/-! # Reading TOML

A text is a sequence of lines: headers of tables, headers of the tables of an array, and keys with
their values, which belong to the table of the last header. Arrays and inline tables may be nested
up to `greatestDepth` deep.
-/

namespace GatewaySim.Toml

open Config (Origin Value Entries)

def greatestDepth : Nat := 80

def greatestLength : Nat := 80

def readBareKey (text : List Char) : Option (String × Rest text) :=
  match text with
  | [] => none
  | c :: rest =>
    if Config.Path.isKeyChar c then
      some (String.ofList (c :: rest.takeWhile Config.Path.isKeyChar),
        ⟨rest.dropWhile Config.Path.isKeyChar, Nat.lt_succ_of_le (length_dropWhile_le _ rest)⟩)
    else none

def readKey (text : List Char) : Option (String × Rest text) :=
  match readLine text with
  | some read => some read
  | none => readBareKey text

def readKeyPart (text : List Char) : Option (String × Rest text) :=
  (readKey (skipBlanks text)).map fun (key, rest) =>
    (key, rest.widen (skipBlanks_length_le text))

def readMarkPart (mark : Char) (text : List Char) : Option (Rest text) :=
  (readMark mark (skipBlanks text)).map fun rest =>
    rest.widen (skipBlanks_length_le text)

/-- Reads a dotted key; `before` holds its keys so far, last first. -/
def readDottedKeyFrom (before : List String) (text : List Char) :
    Option (DottedKey × Rest text) := do
  let (name, rest) ← readKeyPart text
  match readMarkPart '.' rest.1 with
  | some behind =>
    let (key, last) ← readDottedKeyFrom (name :: before) behind.1
    some (key, rest.within (behind.within last))
  | none => some (⟨before.reverse, name⟩, rest)
termination_by text.length
decreasing_by exact Nat.lt_trans behind.2 rest.2

def readDottedKey (text : List Char) : Option (DottedKey × Rest text) :=
  (readDottedKeyFrom [] text).filter fun (key, _) => key.path.length < greatestLength

def readMarkBelow (mark : Char) (text : List Char) : Option (Rest text) :=
  (readMark mark (skipSpace text)).map fun rest =>
    rest.widen (skipSpace_length_le text)

def readBelow {α : Type} (read : Reader α) (text : List Char) : Option (α × Rest text) :=
  (read (skipSpace text)).map fun (value, rest) =>
    (value, rest.widen (skipSpace_length_le text))

/-- Reads the items of an array up to its end; `read` holds those so far, last first. -/
def readItems (readItem : Reader Value) (read : List Value) (text : List Char) :
    Option (List Value × Rest text) :=
  match readMarkBelow ']' text with
  | some rest => some (read.reverse, rest)
  | none => do
    let (item, rest) ← readBelow readItem text
    match readMarkBelow ',' rest.1 with
    | some behind =>
      let (items, last) ← readItems readItem (item :: read) behind.1
      some (items, rest.within (behind.within last))
    | none =>
      let behind ← readMarkBelow ']' rest.1
      some ((item :: read).reverse, rest.within behind)
termination_by text.length
decreasing_by exact Nat.lt_trans behind.2 rest.2

def readEntry (readItem : Reader Value) : Reader (DottedKey × Value) := fun text => do
  let (key, rest) ← readDottedKey text
  let start ← readMarkPart '=' rest.1
  let (value, behind) ← readItem (skipBlanks start.1)
  some ((key, value), rest.within (start.within (behind.widen (skipBlanks_length_le start.1))))

/-- Reads a dotted key and the value that it is given, where both may stand on lines of their own.
The dotted key itself is on one line. -/
def readInlineEntry (readItem : Reader Value) : Reader (DottedKey × Value) := fun text => do
  let (key, rest) ← readDottedKey text
  let start ← readMarkBelow '=' rest.1
  let (value, behind) ← readBelow readItem start.1
  some ((key, value), rest.within (start.within behind))

/-- Reads the entries of an inline table up to its end; `read` holds those so far. -/
def readInline (readItem : Reader Value) (read : Nodes) (text : List Char) :
    Option (Nodes × Rest text) :=
  match readMarkBelow '}' text with
  | some rest => some (read, rest)
  | none => do
    let ((key, value), rest) ← readBelow (readInlineEntry readItem) text
    let read ← read.put? key value
    match readMarkBelow ',' rest.1 with
    | some behind =>
      let (nodes, last) ← readInline readItem read behind.1
      some (nodes, rest.within (behind.within last))
    | none =>
      let behind ← readMarkBelow '}' rest.1
      some (read, rest.within behind)
termination_by text.length
decreasing_by exact Nat.lt_trans behind.2 rest.2

def readWord (origin : Option Origin) (text : List Char) : Option (Value × Rest text) :=
  match text with
  | [] => none
  | c :: rest =>
    if isWordChar c then
      (scalar? (c :: rest.takeWhile isWordChar)).map fun content =>
        (.scalar origin content,
          ⟨rest.dropWhile isWordChar, Nat.lt_succ_of_le (length_dropWhile_le _ rest)⟩)
    else none

/-- Reads a value that is not quoted. Dates and times become texts. -/
def readUnquoted (origin : Option Origin) (text : List Char) : Option (Value × Rest text) :=
  match readDateTime text with
  | some (read, rest) => some (.scalar origin (.text read.text), rest)
  | none => readWord origin text

/-- Reads a value in which containers may be nested up to the given depth. -/
def readValue (origin : Option Origin) : Nat → Reader Value
  | depth, text =>
    match readMark '[' text, readMark '{' text with
    | some rest, _ =>
      match depth with
      | 0 => none
      | depth + 1 =>
        (readItems (readValue origin depth) [] rest.1).map fun (items, behind) =>
          (.array origin items, rest.within behind)
    | none, some rest =>
      match depth with
      | 0 => none
      | depth + 1 =>
        (readInline (readValue origin depth) [] rest.1).map fun (nodes, behind) =>
          (.table origin (finishEntries origin nodes), rest.within behind)
    | none, none =>
      match readQuoted text with
      | some (content, rest) => some (.scalar origin (.text content), rest)
      | none => readUnquoted origin text

inductive Line where
  | table (key : DottedKey)
  | item (key : DottedKey)
  | entry (key : DottedKey) (value : Value)

def readHeader (text : List Char) : Option (DottedKey × Rest text) := do
  let (key, rest) ← readDottedKey text
  let behind ← readMarkPart ']' rest.1
  some (key, rest.within behind)

def readContents (origin : Option Origin) (text : List Char) : Option (Line × Rest text) :=
  match readMark '[' text with
  | none =>
    (readEntry (readValue origin greatestDepth) text).map fun ((key, value), rest) =>
      (.entry key value, rest)
  | some rest =>
    match readMark '[' rest.1 with
    | none => (readHeader rest.1).map fun (key, behind) => (.table key, rest.within behind)
    | some inner => do
      let (key, behind) ← readHeader inner.1
      let last ← readMark ']' behind.1
      some (.item key, rest.within (inner.within (behind.within last)))

/-- Tables under construction, and the path of the last header. -/
structure Draft where
  nodes : Nodes := []
  current : List String := []

def Draft.add? (draft : Draft) : Line → Option Draft
  | .table key => (draft.nodes.addTable? key).map fun nodes => ⟨nodes, key.path ++ [key.name]⟩
  | .item key => (draft.nodes.addItem? key).map fun nodes => ⟨nodes, key.path ++ [key.name]⟩
  | .entry key value =>
    (draft.nodes.within? (fun nodes => nodes.put? key value) draft.current).map fun nodes =>
      { draft with nodes }

def readLines (origin : Option Origin) (draft : Draft) (text : List Char) : Option Draft :=
  if (skipSpace text).isEmpty then some draft
  else do
    let (line, rest) ← readContents origin (skipSpace text)
    let behind ← readLineEnd rest.1
    let draft ← draft.add? line
    readLines origin draft behind.1
termination_by text.length
decreasing_by
  have := skipSpace_length_le text
  have := rest.2
  have := behind.2
  omega

def skipMark (text : List Char) : List Char :=
  match text with
  | '\ufeff' :: rest => rest
  | _ => text

def read (origin : Option Origin) (text : String) : Option Entries :=
  (readLines origin {} (skipMark text.toList)).map fun draft => finishEntries origin draft.nodes

end GatewaySim.Toml
