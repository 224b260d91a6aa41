import GatewaySim.Json.Numeral

/-! # The grammar of JSON

JSON values as trees, and the texts that a tree may be written as: with any blanks between the
tokens, and with any of its spellings for each character of a string. A production relates what it
derives to a text and to the rest of the text that it leaves, so sequences need no concatenation.
The productions are those of the standard and say nothing about how a text is read.
-/

namespace GatewaySim.Json

/-- A JSON value. Members keep their order, and keys may be repeated. -/
inductive Tree where
  | null
  | boolean (value : Bool)
  | number (negative : Bool) (numeral : Numeral)
  | text (value : String)
  | array (items : List Tree)
  | object (members : List (String × Tree))

inductive Blanks : List Char → List Char → Prop where
  | none {text : List Char} : Blanks text text
  | more {c : Char} {text rest : List Char} (blank : c ∈ [' ', '\t', '\n', '\r'])
      (blanks : Blanks text rest) : Blanks (c :: text) rest

/-! ## Strings -/

def HexDigit (value : Nat) (c : Char) : Prop :=
  "0123456789abcdef".toList[value]? = some c ∨ "0123456789ABCDEF".toList[value]? = some c

inductive Unit16 : Nat → List Char → List Char → Prop where
  | digits {w x y z : Nat} {a b c d : Char} {rest : List Char} (first : HexDigit w a)
      (second : HexDigit x b) (third : HexDigit y c) (fourth : HexDigit z d) :
      Unit16 (w * 0x1000 + x * 0x100 + y * 0x10 + z) (a :: b :: c :: d :: rest) rest

def letterEscapes : List (Char × Char) :=
  [('"', '"'), ('\\', '\\'), ('/', '/'), ('b', '\x08'), ('f', '\x0c'), ('n', '\n'), ('r', '\r'),
    ('t', '\t')]

/-- The spellings of a character within a string: itself, by a letter behind a backslash, or by the
one or two units that encode it in sixteen bits. -/
inductive SpelledChar : Char → List Char → List Char → Prop where
  | plain {c : Char} {rest : List Char} (quote : c ≠ '"') (backslash : c ≠ '\\')
      (printable : 0x20 ≤ c.toNat) : SpelledChar c (c :: rest) rest
  | letter {c letter : Char} {rest : List Char} (known : (letter, c) ∈ letterEscapes) :
      SpelledChar c ('\\' :: letter :: rest) rest
  | unit {c : Char} {text rest : List Char} (unit : Unit16 c.toNat text rest) :
      SpelledChar c ('\\' :: 'u' :: text) rest
  | pair {c : Char} {text more rest : List Char} (beyond : 0x10000 ≤ c.toNat)
      (leading : Unit16 (0xd800 + (c.toNat - 0x10000) / 0x400) text ('\\' :: 'u' :: more))
      (trailing : Unit16 (0xdc00 + (c.toNat - 0x10000) % 0x400) more rest) :
      SpelledChar c ('\\' :: 'u' :: text) rest

inductive Spelled : List Char → List Char → List Char → Prop where
  | nil {text : List Char} : Spelled [] text text
  | cons {c : Char} {s text more rest : List Char} (char : SpelledChar c text more)
      (chars : Spelled s more rest) : Spelled (c :: s) text rest

/-! ## Numerals -/

def Digits (digits : List Char) : Prop := digits ≠ [] ∧ ∀ c, c ∈ digits → c.isDigit

/-- The part before the point: a lone zero, or digits that do not begin with one. -/
def WholePart (digits : List Char) : Prop :=
  Digits digits ∧ (digits.head? = some '0' → digits = ['0'])

inductive FractionPart : List Char → List Char → List Char → Prop where
  | absent {text : List Char} : FractionPart [] text text
  | present {digits rest : List Char} (valid : Digits digits) :
      FractionPart digits ('.' :: (digits ++ rest)) rest

inductive ExponentSign : Bool → List Char → List Char → Prop where
  | absent {text : List Char} : ExponentSign false text text
  | plus {text : List Char} : ExponentSign false ('+' :: text) text
  | minus {text : List Char} : ExponentSign true ('-' :: text) text

inductive ExponentPart : Option Int → List Char → List Char → Prop where
  | absent {text : List Char} : ExponentPart none text text
  | present {mark : Char} {negative : Bool} {text digits rest : List Char}
      (marked : mark = 'e' ∨ mark = 'E') (sign : ExponentSign negative text (digits ++ rest))
      (valid : Digits digits) :
      ExponentPart
        (some (if negative then -(Nat.ofDigitChars 10 digits 0 : Int)
          else Nat.ofDigitChars 10 digits 0))
        (mark :: text) rest

inductive WrittenNumeral : Numeral → List Char → List Char → Prop where
  | parts {numeral : Numeral} {more behind rest : List Char} (whole : WholePart numeral.whole)
      (fraction : FractionPart numeral.fraction more behind)
      (exponent : ExponentPart numeral.exponent behind rest) :
      WrittenNumeral numeral (numeral.whole ++ more) rest

/-! ## Values -/

/-- What a production derives. An element is a value with the blanks around it; items and members
are separated by commas and are at least one. -/
inductive Phrase where
  | value (tree : Tree)
  | element (tree : Tree)
  | items (trees : List Tree)
  | member (key : String) (tree : Tree)
  | members (members : List (String × Tree))

/-- `Written phrase text rest`: the text begins with a written form of the phrase, and `rest` is
what follows it. -/
inductive Written : Phrase → List Char → List Char → Prop where
  | null {rest : List Char} : Written (.value .null) ('n' :: 'u' :: 'l' :: 'l' :: rest) rest
  | yes {rest : List Char} :
      Written (.value (.boolean true)) ('t' :: 'r' :: 'u' :: 'e' :: rest) rest
  | no {rest : List Char} :
      Written (.value (.boolean false)) ('f' :: 'a' :: 'l' :: 's' :: 'e' :: rest) rest
  | natural {numeral : Numeral} {text rest : List Char}
      (digits : WrittenNumeral numeral text rest) :
      Written (.value (.number false numeral)) text rest
  | negative {numeral : Numeral} {text rest : List Char}
      (digits : WrittenNumeral numeral text rest) :
      Written (.value (.number true numeral)) ('-' :: text) rest
  | text {value : String} {text rest : List Char}
      (chars : Spelled value.toList text ('"' :: rest)) :
      Written (.value (.text value)) ('"' :: text) rest
  | emptyArray {text rest : List Char} (blanks : Blanks text (']' :: rest)) :
      Written (.value (.array [])) ('[' :: text) rest
  | array {trees : List Tree} {text rest : List Char}
      (items : Written (.items trees) text (']' :: rest)) :
      Written (.value (.array trees)) ('[' :: text) rest
  | emptyObject {text rest : List Char} (blanks : Blanks text ('}' :: rest)) :
      Written (.value (.object [])) ('{' :: text) rest
  | object {members : List (String × Tree)} {text rest : List Char}
      (within : Written (.members members) text ('}' :: rest)) :
      Written (.value (.object members)) ('{' :: text) rest
  | element {tree : Tree} {text start behind rest : List Char} (before : Blanks text start)
      (value : Written (.value tree) start behind) (after : Blanks behind rest) :
      Written (.element tree) text rest
  | lastItem {tree : Tree} {text rest : List Char} (item : Written (.element tree) text rest) :
      Written (.items [tree]) text rest
  | item {tree : Tree} {trees : List Tree} {text others rest : List Char}
      (item : Written (.element tree) text (',' :: others))
      (items : Written (.items trees) others rest) : Written (.items (tree :: trees)) text rest
  | member {key : String} {tree : Tree} {text name colon value rest : List Char}
      (before : Blanks text ('"' :: name)) (chars : Spelled key.toList name ('"' :: colon))
      (after : Blanks colon (':' :: value)) (element : Written (.element tree) value rest) :
      Written (.member key tree) text rest
  | lastMember {key : String} {tree : Tree} {text rest : List Char}
      (member : Written (.member key tree) text rest) : Written (.members [(key, tree)]) text rest
  | moreMembers {key : String} {tree : Tree} {members : List (String × Tree)}
      {text others rest : List Char} (member : Written (.member key tree) text (',' :: others))
      (within : Written (.members members) others rest) :
      Written (.members ((key, tree) :: members)) text rest

/-- `WrittenText tree text`: the text holds a written form of the value and, apart from blanks
around it, nothing else. -/
def WrittenText (tree : Tree) (text : List Char) : Prop := Written (.element tree) text []

end GatewaySim.Json
