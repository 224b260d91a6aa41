import GatewaySim.Proofs.Json.Skipping

/-! # The syntax of JSON without its meaning

Which texts are JSON at all, and of which kind. The grammar of trees says the same of the texts that
have a meaning (`formed_of_written`); but a string of JSON may also hold a single half of a pair of
units, which stands for no character. Such a string means nothing, yet a value that is passed over
may hold one.
-/

namespace GatewaySim.Json

inductive Kind where
  | null
  | boolean
  | number
  | text
  | array
  | object
  deriving DecidableEq, Repr

/-- A string behind its opening quote, with its closing quote: single characters, and escapes by a
letter or by any four hexadecimal digits. -/
inductive Quoted : List Char → List Char → Prop where
  | close {rest : List Char} : Quoted ('"' :: rest) rest
  | plain {c : Char} {text rest : List Char} (quote : c ≠ '"') (backslash : c ≠ '\\')
      (printable : 0x20 ≤ c.toNat) (onward : Quoted text rest) : Quoted (c :: text) rest
  | letter {letter c : Char} {text rest : List Char} (known : (letter, c) ∈ letterEscapes)
      (onward : Quoted text rest) : Quoted ('\\' :: letter :: text) rest
  | unit {value : Nat} {text more rest : List Char} (unit : Unit16 value text more)
      (onward : Quoted more rest) : Quoted ('\\' :: 'u' :: text) rest

inductive Part where
  | value (kind : Kind)
  | element (kind : Kind)
  | items
  | member
  | members

/-- `Formed part text rest`: the text begins with a well-formed part, and `rest` is what follows
it. -/
inductive Formed : Part → List Char → List Char → Prop where
  | null {rest : List Char} : Formed (.value .null) ('n' :: 'u' :: 'l' :: 'l' :: rest) rest
  | yes {rest : List Char} : Formed (.value .boolean) ('t' :: 'r' :: 'u' :: 'e' :: rest) rest
  | no {rest : List Char} :
      Formed (.value .boolean) ('f' :: 'a' :: 'l' :: 's' :: 'e' :: rest) rest
  | natural {numeral : Numeral} {text rest : List Char}
      (digits : WrittenNumeral numeral text rest) : Formed (.value .number) text rest
  | negative {numeral : Numeral} {text rest : List Char}
      (digits : WrittenNumeral numeral text rest) : Formed (.value .number) ('-' :: text) rest
  | text {text rest : List Char} (quoted : Quoted text rest) :
      Formed (.value .text) ('"' :: text) rest
  | emptyArray {text rest : List Char} (blanks : Blanks text (']' :: rest)) :
      Formed (.value .array) ('[' :: text) rest
  | array {text rest : List Char} (items : Formed .items text (']' :: rest)) :
      Formed (.value .array) ('[' :: text) rest
  | emptyObject {text rest : List Char} (blanks : Blanks text ('}' :: rest)) :
      Formed (.value .object) ('{' :: text) rest
  | object {text rest : List Char} (within : Formed .members text ('}' :: rest)) :
      Formed (.value .object) ('{' :: text) rest
  | element {kind : Kind} {text start behind rest : List Char} (before : Blanks text start)
      (value : Formed (.value kind) start behind) (after : Blanks behind rest) :
      Formed (.element kind) text rest
  | lastItem {kind : Kind} {text rest : List Char} (item : Formed (.element kind) text rest) :
      Formed .items text rest
  | item {kind : Kind} {text others rest : List Char}
      (item : Formed (.element kind) text (',' :: others)) (items : Formed .items others rest) :
      Formed .items text rest
  | member {kind : Kind} {text name colon value rest : List Char}
      (before : Blanks text ('"' :: name)) (quoted : Quoted name colon)
      (after : Blanks colon (':' :: value)) (element : Formed (.element kind) value rest) :
      Formed .member text rest
  | lastMember {text rest : List Char} (member : Formed .member text rest) :
      Formed .members text rest
  | moreMembers {text others rest : List Char} (member : Formed .member text (',' :: others))
      (within : Formed .members others rest) : Formed .members text rest

/-- `FormedText kind text`: the text is one JSON value of that kind and, apart from blanks around
it, nothing else. -/
def FormedText (kind : Kind) (text : List Char) : Prop := Formed (.element kind) text []

/-! ## Texts with a meaning -/

def Tree.kind : Tree → Kind
  | .null => .null
  | .boolean _ => .boolean
  | .number .. => .number
  | .text _ => .text
  | .array _ => .array
  | .object _ => .object

def Phrase.part : Phrase → Part
  | .value tree => .value tree.kind
  | .element tree => .element tree.kind
  | .items _ => .items
  | .member .. => .member
  | .members _ => .members

theorem quoted_of_spelledChar {c : Char} {text more rest : List Char}
    (spelled : SpelledChar c text more) (onward : Quoted more rest) : Quoted text rest := by
  cases spelled with
  | plain quote backslash printable => exact .plain quote backslash printable onward
  | letter known => exact .letter known onward
  | unit unit => exact .unit unit onward
  | pair _ leading trailing => exact .unit leading (.unit trailing onward)

theorem quoted_of_spelled {s text rest : List Char} (spelled : Spelled s text ('"' :: rest)) :
    Quoted text rest := by
  generalize closed : '"' :: rest = behind at spelled
  induction spelled with
  | nil => exact closed ▸ .close
  | cons char _ ih => exact quoted_of_spelledChar char (ih closed)

/-- What is written for a tree is well-formed. -/
theorem formed_of_written {phrase : Phrase} {text rest : List Char}
    (written : Written phrase text rest) : Formed phrase.part text rest := by
  induction written with
  | null => exact .null
  | yes => exact .yes
  | no => exact .no
  | natural digits => exact .natural digits
  | negative digits => exact .negative digits
  | text chars => exact .text (quoted_of_spelled chars)
  | emptyArray blanks => exact .emptyArray blanks
  | array _ ih => exact .array ih
  | emptyObject blanks => exact .emptyObject blanks
  | object _ ih => exact .object ih
  | element before _ after ih => exact .element before ih after
  | lastItem _ ih => exact .lastItem ih
  | item _ _ ih ihItems => exact .item ih ihItems
  | member before chars after _ ih => exact .member before (quoted_of_spelled chars) after ih
  | lastMember _ ih => exact .lastMember ih
  | moreMembers _ _ ih ihMembers => exact .moreMembers ih ihMembers

/-! ## Blanks around what is well-formed -/

variable {kind : Kind} {text behind rest : List Char}

theorem Blanks.trans (blanks : Blanks text behind) (onward : Blanks behind rest) :
    Blanks text rest := by
  induction blanks with
  | none => exact onward
  | more blank _ ih => exact .more blank (ih onward)

theorem Formed.element_blanks (element : Formed (.element kind) text behind)
    (blanks : Blanks behind rest) : Formed (.element kind) text rest := by
  cases element with
  | element before value after => exact .element before value (after.trans blanks)

theorem Formed.member_blanks (member : Formed .member text behind) (blanks : Blanks behind rest) :
    Formed .member text rest := by
  cases member with
  | member before quoted after element =>
    exact .member before quoted after (element.element_blanks blanks)

/-- An object begins with a brace. -/
theorem exists_brace_of_object (object : Formed (.value .object) text rest) :
    ∃ more, text = '{' :: more := by
  cases object with
  | emptyObject | object => exact ⟨_, rfl⟩

end GatewaySim.Json
