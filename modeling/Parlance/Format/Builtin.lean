import Parlance.Format.Formatter

namespace Parlance.Format

open Parlance.Number Parlance.Calendar

/-! # The built-in formatters

Three formatters write an argument as it is, as a number or as a date. Three choose a branch:
by a number and its plural category, by a rank and its category, or by a text.
-/

def countText (directive : Directive) (arguments : Arguments) : Except Error String :=
  (numberOf arguments directive.argument).map Numeric.display

/-- A number in a style: as it is, rounded, or as rounded hundredths. -/
def numberText (directive : Directive) (arguments : Arguments) : Except Error String :=
  match numberOf arguments directive.argument with
  | .error error => .error error
  | .ok number =>
    match directive.style? with
    | none => .ok number.display
    | some style =>
      if style = "integer" then .ok (Numeric.round number.toFloating).display
      else if style = "percent" then
        .ok ((Numeric.round number.toFloating.hundredfold).display ++ "%")
      else .error (.invalidStyle directive.kind style)

def valueText (directive : Directive) (arguments : Arguments) : Except Error String :=
  (argumentOf arguments directive.argument).map Value.display

/-- The named styles of dates and the items that they stand for. -/
def namedDateStyles : List (String × String) := [
  ("medium", "%b %-d, %Y"),
  ("short", "%Y-%m-%d"),
  ("long", "%B %-d, %Y"),
  ("full", "%A, %B %-d, %Y"),
  ("time", "%H:%M"),
  ("datetime", "%Y-%m-%d %H:%M"),
  ("iso", "%Y-%m-%dT%H:%M:%S")]

/-- The items of a date style. Without a style it is the one named medium. -/
def dateStyle (style : Option String) : String :=
  let named := style.getD "medium"
  (Keyed.find? namedDateStyles named).getD named

def dateText (directive : Directive) (arguments : Arguments) : Except Error String :=
  match argumentOf arguments directive.argument with
  | .error error => .error error
  | .ok (.moment moment) =>
    match writeStyle? (dateStyle directive.style?) moment with
    | some text => .ok text
    | none => .error (.invalidStyle directive.kind (directive.style?.getD ""))
  | .ok other => .error (.wrongArgument directive.argument .date other.typeName)

def pluralKey (kind : Plural.Kind) (context : Context) (number : Numeric) : String :=
  match number.integral? with
  | some whole => context.category kind whole
  | none => otherKey

/-- The branch that spells the number, or else the branch of its category. -/
def pluralBranch (kind : Plural.Kind) (context : Context) (directive : Directive)
    (branches : List (String × List Node)) (arguments : Arguments) :
    Except Error (List Node) :=
  match numberOf arguments directive.argument with
  | .error error => .error error
  | .ok number =>
    match exactBranch? branches number.toFloating with
    | some branch => .ok branch
    | none => selectBranch directive.argument branches (pluralKey kind context number)

def textBranch (directive : Directive) (branches : List (String × List Node))
    (arguments : Arguments) : Except Error (List Node) :=
  match argumentOf arguments directive.argument with
  | .error error => .error error
  | .ok value => selectBranch directive.argument branches value.display

namespace Formatter

def count : Formatter := ofText fun _ => countText

def number : Formatter := ofText fun _ => numberText

def value : Formatter := ofText fun _ => valueText

def date : Formatter := ofText fun _ => dateText

def plural (kind : Plural.Kind) : Formatter :=
  ofBranches true (pluralBranch kind)

def select : Formatter :=
  ofBranches false fun _ => textBranch

end Formatter

def Registry.builtin : Registry :=
  Keyed.ofList [
    (countKind, .count),
    ("number", .number),
    (valueKind, .value),
    ("plural", .plural .cardinal),
    ("select", .select),
    ("selectordinal", .plural .ordinal),
    ("date", .date)]

end Parlance.Format
