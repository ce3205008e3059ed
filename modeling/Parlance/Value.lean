import Parlance.Calendar.Written
import Parlance.Number.Numeral
import Parlance.Number.Plain
import Parlance.Text.Blank

namespace Parlance

open Parlance.Number Parlance.Calendar

/-! # Values of arguments

An argument is a whole number, a floating number, a text or a moment. Formatters that count
do not look at the value itself but at its numeric reading.
-/

inductive Value where
  | integer (value : Int)
  | floating (value : Floating)
  | text (value : String)
  | moment (value : Moment)
deriving Repr, DecidableEq, Inhabited

inductive Numeric where
  | integer (value : Int)
  | floating (value : Floating)
deriving Repr, DecidableEq, Inhabited

namespace Numeric

def toFloating : Numeric → Floating
  | integer value => Floating.ofInt value
  | floating value => value

def integral? : Numeric → Option Int
  | integer value => some value
  | floating value => value.integral?

def display : Numeric → String
  | integer value => toString value
  | floating value => value.plain

/-- The nearest whole number, a half away from zero, computed on the floating number. -/
def round (value : Floating) : Numeric :=
  let rounded := value.round
  match rounded.integral? with
  | some whole => integer whole
  | none => floating rounded

end Numeric

namespace Value

/-- A whole number. One above the range of 64 bits becomes a floating number. -/
def ofInt (value : Int) : Value :=
  if value ≤ greatestInteger then integer value else floating (Floating.ofInt value)

/-- The sort of a value, as error texts name it. -/
def typeName : Value → String
  | integer _ => "number"
  | floating _ => "float"
  | text _ => "string"
  | moment _ => "date"

def display : Value → String
  | integer value => toString value
  | floating value => value.plain
  | text value => value
  | moment value => value.plain

/-- The finite number that a text spells: a whole number if possible. -/
def numericOfText? (text : List Char) : Option Numeric :=
  match readInteger? text with
  | some value => some (.integer value)
  | none => ((readFloating? binary64 text).filter Floating.isFinite).map .floating

/-- The value as a number. A text counts if it spells a finite number between blanks. -/
def numeric? : Value → Option Numeric
  | integer value => some (.integer value)
  | floating value => some (.floating value)
  | text value => numericOfText? (Text.trimList value.toList)
  | moment _ => none

def integer? : Value → Option Int
  | integer value => some value
  | _ => none

def floating? : Value → Option Floating
  | integer value => some (Floating.ofInt value)
  | floating value => some value
  | _ => none

def text? : Value → Option String
  | text value => some value
  | _ => none

def moment? : Value → Option Moment
  | moment value => some value
  | _ => none

end Value

abbrev Arguments := List (String × Value)

end Parlance
