import Parlance.Pattern.Failure

namespace Parlance.Format

/-! # Errors of formatting

A message fails because its pattern is no pattern, because nothing formats directives of a
kind, because an argument or a style does not suit its directive, or because no branch is
there for a key.
-/

inductive ErrorClass where
  | parse
  | dispatch
  | argument
  | selection
deriving Repr, DecidableEq

/-- What an argument has to be. The built-in formatters ask for numbers and dates, and others may
ask for anything that they can describe. -/
structure Expectation where
  description : String
deriving Repr, DecidableEq

namespace Expectation

def number : Expectation := ⟨"a number"⟩

def date : Expectation := ⟨"a date"⟩

end Expectation

inductive Error where
  | pattern (error : Pattern.Error)
  | unknownKind (kind argument : String)
  | missingArgument (name : String)
  | wrongArgument (name : String) (expected : Expectation) (found : String)
  | invalidStyle (kind style : String)
  | missingBranch (argument key : String) (available suggestions : List String)
deriving Repr, DecidableEq

namespace Error

def errorClass : Error → ErrorClass
  | pattern _ => .parse
  | unknownKind .. => .dispatch
  | missingArgument _ => .argument
  | wrongArgument .. => .argument
  | invalidStyle .. => .argument
  | missingBranch .. => .selection

def suggestionText (suggestions : List String) : String :=
  if suggestions.isEmpty then ""
  else "; did you mean: " ++ ", ".intercalate suggestions ++ "?"

def display : Error → String
  | pattern error => error.display
  | unknownKind kind argument =>
    "unknown formatter '" ++ kind ++ "' for argument '" ++ argument ++ "'"
  | missingArgument name => "missing argument '" ++ name ++ "'"
  | wrongArgument name expected found =>
    "argument '" ++ name ++ "' must be " ++ expected.description ++ ", got " ++ found
  | invalidStyle kind style => "invalid style '" ++ style ++ "' for '" ++ kind ++ "' formatter"
  | missingBranch argument key available suggestions =>
    "no selector '" ++ key ++ "' or 'other' for argument '" ++ argument ++ "', available: " ++
      ", ".intercalate available ++ suggestionText suggestions

end Error

end Parlance.Format
