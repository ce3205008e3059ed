import Parlance.Text.Alphabetic
import Parlance.Text.Digits
import Parlance.Text.Marks

namespace Parlance.Text

/-! # The characters of names and of words

Names inside a pattern are made of alphanumeric characters. A quick look at a pattern,
before it is read, goes by word characters: these have the marks and the connectors,
and not the numbers that are no decimal digits.
-/

def isAlphanumeric (c : Char) : Bool :=
  isAlphabetic c || isNumber c

/-- The category Pc: the underscore and its relatives. -/
def isConnector (c : Char) : Bool :=
  inRanges [(0x5f, 0x5f), (0x203f, 0x2040), (0x2054, 0x2054), (0xfe33, 0xfe34), (0xfe4d, 0xfe4f),
    (0xff3f, 0xff3f)] c

/-- The zero-width joiner and non-joiner. -/
def isJoinControl (c : Char) : Bool :=
  inRanges [(0x200c, 0x200d)] c

/-- Alphabetic, a mark, a decimal digit, a connector or a joiner. -/
def isWordChar (c : Char) : Bool :=
  isAlphabetic c || isMark c || isDecimal c || isConnector c || isJoinControl c

end Parlance.Text
