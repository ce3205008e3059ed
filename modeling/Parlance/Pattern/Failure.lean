namespace Parlance.Pattern

/-! # Failures of reading a pattern

Reading stops at the first fault. The failure keeps its cause and the input that was left;
the error that is reported has the position of that place instead.
-/

inductive Cause where
  | argumentName
  | afterArgument
  | argumentType
  | selectorsExpected
  | styleEnd
  | repeatedSelector
  | selectorOpening
  | noSelector
  | closingBrace
  | attributeValue
  | tagEnd
  | closingTag
  | closingTagName
  | closingTagEnd
  | unopenedTag
  | unmatchedBrace
  | unexpected (c : Char)
  /-- A fault that a formatter has found in a text of its own. No pattern is refused for it. -/
  | other (message : String)
deriving Repr, DecidableEq, Inhabited

/-- What was read wrongly, and what would have been right. -/
def Cause.message : Cause → String
  | argumentName => "invalid argument name"
  | afterArgument => "expected `,`, `\x7d`"
  | argumentType => "invalid argument type"
  | selectorsExpected => "expected `,` followed by selectors"
  | styleEnd => "invalid directive style; expected `\x7d`"
  | repeatedSelector => "expected a selector key not used earlier"
  | selectorOpening => "invalid selector; expected `\x7b`"
  | noSelector => "expected at least one selector"
  | closingBrace => "expected `\x7d`"
  | attributeValue => "invalid attribute value"
  | tagEnd => "invalid tag; expected `>`"
  | closingTag => "expected closing tag"
  | closingTagName => "expected closing tag matching its opening tag"
  | closingTagEnd => "invalid closing tag; expected `>`"
  | unopenedTag => "closing tag without a matching opening tag"
  | unmatchedBrace => "unmatched '\x7d'"
  | unexpected c => "unexpected character: '" ++ String.singleton c ++ "'"
  | other message => message

structure Failure where
  cause : Cause
  rest : List Char
deriving Repr, DecidableEq

/-- A place in a text. Lines and columns count from 1, columns by characters. -/
structure Position where
  line : Nat
  column : Nat
deriving Repr, DecidableEq, Inhabited

namespace Position

def start : Position := ⟨1, 1⟩

def advance (position : Position) (c : Char) : Position :=
  if c = '\n' then ⟨position.line + 1, 1⟩ else ⟨position.line, position.column + 1⟩

/-- The place behind a text. -/
def after (consumed : List Char) : Position :=
  consumed.foldl advance start

/-- The place in `input` where its end `rest` begins. -/
def ofRest (input rest : List Char) : Position :=
  after (input.take (input.length - rest.length))

end Position

/-- A fault of a pattern. It is at the end if nothing was left to read. -/
structure Error where
  position : Position
  cause : Cause
  atEnd : Bool
deriving Repr, DecidableEq, Inhabited

namespace Error

def ofFailure (input : List Char) (failure : Failure) : Error where
  position := Position.ofRest input failure.rest
  cause := failure.cause
  atEnd := failure.rest.isEmpty

def display (error : Error) : String :=
  (if error.atEnd then "unexpected end of input at " else "syntax error at ") ++
    toString error.position.line ++ ":" ++ toString error.position.column ++ ": " ++
    error.cause.message

end Error

end Parlance.Pattern
