import GatewaySim.Text.Hidden

/-! # Quotation in diagnostics

How a text is quoted in an error message: quotes, backslashes and the usual control characters by
two-character escapes, other characters without a visible form by their hexadecimal number, and all
else as it stands.
-/

namespace GatewaySim.Text

def isHidden (c : Char) : Bool := c.toNat < 0x20 || (0x7f ≤ c.toNat && hidden.contains c)

def quoteChar (c : Char) : List Char :=
  if c = '"' then ['\\', '"']
  else if c = '\\' then ['\\', '\\']
  else if c = '\n' then ['\\', 'n']
  else if c = '\r' then ['\\', 'r']
  else if c = '\t' then ['\\', 't']
  else if c = '\x00' then ['\\', '0']
  else if isHidden c then '\\' :: 'u' :: '\x7b' :: (Nat.toDigits 16 c.toNat ++ ['\x7d'])
  else [c]

def quote (text : String) : String :=
  String.ofList ('"' :: (text.toList.flatMap quoteChar ++ ['"']))

end GatewaySim.Text
