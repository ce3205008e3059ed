import Parlance.Format.Error
import Parlance.Format.Suggestion
import Parlance.Keyed
import Parlance.Pattern.Node
import Parlance.Plural.Overrides
import Parlance.Value

namespace Parlance.Format

open Parlance.Number

/-! # Directives

A directive names an argument and a kind. It has either a style or branches. Formatters look
up the argument and, if they choose a branch, the branch of a key.
-/

/-- What a directive has besides its argument and its kind. -/
inductive Shape where
  | styled (style : Option String)
  | branched (branches : List (String × List Node))
deriving Repr, DecidableEq, Inhabited

structure Directive where
  argument : String
  kind : String
  shape : Shape
deriving Repr, DecidableEq, Inhabited

/-- What a formatter knows of the surroundings of a message: the locale, the path of the
message in its catalogue, and the rules of plural forms. -/
structure Context where
  locale : String
  path : Option String
  categories : Plural.Categories

namespace Context

def category (context : Context) (kind : Plural.Kind) (number : Int) : String :=
  context.categories context.locale kind number

end Context

namespace Directive

def toNode (directive : Directive) : Node :=
  match directive.shape with
  | .styled style => .format directive.argument directive.kind style
  | .branched branches => .message directive.argument directive.kind branches

def style? (directive : Directive) : Option String :=
  match directive.shape with
  | .styled style => style
  | .branched _ => none

/-- The branches. A directive without branches has a style that its kind does not allow. -/
def branches (directive : Directive) : Except Error (List (String × List Node)) :=
  match directive.shape with
  | .branched branches => .ok branches
  | .styled style => .error (.invalidStyle directive.kind (style.getD ""))

end Directive

def argumentOf (arguments : Arguments) (name : String) : Except Error Value :=
  match Keyed.find? arguments name with
  | some value => .ok value
  | none => .error (.missingArgument name)

def numberOf (arguments : Arguments) (name : String) : Except Error Numeric :=
  match argumentOf arguments name with
  | .error error => .error error
  | .ok value =>
    match value.numeric? with
    | some number => .ok number
    | none => .error (.wrongArgument name .number value.typeName)

/-- The branch of a key, or else the branch for all others. -/
def selectBranch (argument : String) (branches : List (String × List Node)) (key : String) :
    Except Error (List Node) :=
  match (Keyed.find? branches key).or (Keyed.find? branches otherKey) with
  | some branch => .ok branch
  | none =>
    let available := Keyed.keys branches
    .error (.missingBranch argument key available (suggestions key available))

def exactNumber? (key : String) : Option Floating :=
  match key.toList with
  | '=' :: spelled => readFloating? binary64 spelled
  | _ => none

def isExactFor (number : Floating) (key : String) : Bool :=
  (exactNumber? key).any (·.equal number)

/-- The first branch whose key spells the number. -/
def exactBranch? (branches : List (String × List Node)) (number : Floating) :
    Option (List Node) :=
  (branches.find? fun branch => isExactFor number branch.1).map Prod.snd

end Parlance.Format
