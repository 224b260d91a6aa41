import GatewaySim.Number.Layout
import GatewaySim.Text.Quotation

/-! # What is wrong with a JSON text

The causes for which reading a JSON text fails, with their wording and their category: the text
ends too early, it is not well-formed, or it is well-formed and means something else than asked for.
-/

namespace GatewaySim.Json

inductive Found where
  | null
  | boolean (value : Bool)
  | integer (value : Int)
  | real (value : Binary64)
  | text (value : String)
  | sequence
  | map
  deriving DecidableEq, Repr

def Found.description : Found → String
  | .null => "null"
  | .boolean value => "boolean `" ++ (if value then "true" else "false") ++ "`"
  | .integer value => "integer `" ++ toString value ++ "`"
  | .real value => "floating point `" ++ NumberLayout.general.text value ++ "`"
  | .text value => "string " ++ Text.quote value
  | .sequence => "sequence"
  | .map => "map"

inductive ReadError where
  | endInValue
  | endInText
  | endInObject
  | endInArray
  | expectedValue
  | expectedKeyword
  | expectedColon
  | expectedCommaOrBrace
  | expectedCommaOrBracket
  | keyNotText
  | trailingComma
  | trailingCharacters
  | invalidNumber
  | numberOutOfRange
  | invalidEscape
  | loneSurrogate
  | surrogateCutShort
  | controlCharacter
  | tooDeep
  | unexpected (found : Found) (expected : String)
  | repeatedKey (key : String)
  deriving DecidableEq, Repr

/-- The three ways in which a text can fail to be read. -/
inductive ReadError.Category where
  | ended
  | malformed
  | mismatch
  deriving DecidableEq, Repr

namespace ReadError

def category : ReadError → Category
  | .endInValue | .endInText | .endInObject | .endInArray => .ended
  | .unexpected .. | .repeatedKey _ => .mismatch
  | _ => .malformed

def message : ReadError → String
  | .endInValue => "EOF while parsing a value"
  | .endInText => "EOF while parsing a string"
  | .endInObject => "EOF while parsing an object"
  | .endInArray => "EOF while parsing a list"
  | .expectedValue => "expected value"
  | .expectedKeyword => "expected ident"
  | .expectedColon => "expected `:`"
  | .expectedCommaOrBrace => "expected `,` or `\x7d`"
  | .expectedCommaOrBracket => "expected `,` or `]`"
  | .keyNotText => "key must be a string"
  | .trailingComma => "trailing comma"
  | .trailingCharacters => "trailing characters"
  | .invalidNumber => "invalid number"
  | .numberOutOfRange => "number out of range"
  | .invalidEscape => "invalid escape"
  | .loneSurrogate => "lone leading surrogate in hex escape"
  | .surrogateCutShort => "unexpected end of hex escape"
  | .controlCharacter => "control character (\\u0000-\\u001F) found while parsing a string"
  | .tooDeep => "recursion limit exceeded"
  | .unexpected found expected =>
    "invalid type: " ++ found.description ++ ", expected " ++ expected
  | .repeatedKey key => "duplicate field `" ++ key ++ "`"

end ReadError

end GatewaySim.Json
