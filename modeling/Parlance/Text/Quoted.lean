import Parlance.Text.Printable

namespace Parlance.Text

/-! # Quoted text

Text for inspection stands between double quotes. The quote and the backslash are escaped,
the common control characters have letters, and every other unprintable character is
written by its code point in hexadecimal digits.
-/

def quoteChar (c : Char) : List Char :=
  if c = '"' then ['\\', '"']
  else if c = '\\' then ['\\', '\\']
  else if c = '\n' then ['\\', 'n']
  else if c = '\r' then ['\\', 'r']
  else if c = '\t' then ['\\', 't']
  else if c.toNat = 0 then ['\\', '0']
  else if isPrintable c then [c]
  else ['\\', 'u', '\x7b'] ++ Nat.toDigits 16 c.toNat ++ ['\x7d']

/-- The text as a quoted literal. -/
def quoted (text : String) : String :=
  String.ofList ('"' :: text.toList.flatMap quoteChar ++ ['"'])

end Parlance.Text
