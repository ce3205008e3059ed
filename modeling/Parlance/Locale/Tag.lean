import Parlance.Text.Blank
import Parlance.Text.Order

namespace Parlance.Locale

open Parlance.Text

/-! # Locale tags

A locale tag is a list of subtags between hyphens: a language, then maybe a script, a region
and variants, and then extensions. An extension begins with a subtag of one character, which
decides the form of what follows. Case is of no matter, and underscores count as hyphens.
-/

structure Extension where
  singleton : String
  subtags : List String
deriving Repr, DecidableEq

structure Tag where
  language : String
  script : Option String
  region : Option String
  variants : List String
  extensions : List Extension
deriving Repr, DecidableEq

def english : Tag := ⟨"en", none, none, [], []⟩

abbrev Subtag := List Char

def isSizedIn (least greatest : Nat) (subtag : Subtag) : Bool :=
  least ≤ subtag.length && subtag.length ≤ greatest

def isLetters (subtag : Subtag) : Bool :=
  subtag.all Char.isAlpha

def isDigits (subtag : Subtag) : Bool :=
  subtag.all Char.isDigit

def isLettersOrDigits (subtag : Subtag) : Bool :=
  subtag.all Char.isAlphanum

def beginsWithDigit (subtag : Subtag) : Bool :=
  subtag.head?.any Char.isDigit

def isLanguage (subtag : Subtag) : Bool :=
  isSizedIn 2 3 subtag && isLetters subtag

def isScript (subtag : Subtag) : Bool :=
  isSizedIn 4 4 subtag && isLetters subtag

def isRegion (subtag : Subtag) : Bool :=
  isSizedIn 2 2 subtag && isLetters subtag || isSizedIn 3 3 subtag && isDigits subtag

def isVariant (subtag : Subtag) : Bool :=
  isLettersOrDigits subtag &&
    (isSizedIn 5 8 subtag || isSizedIn 4 4 subtag && beginsWithDigit subtag)

/-- A member of an extension of the given least length. -/
def isMember (least : Nat) (subtag : Subtag) : Bool :=
  isSizedIn least 8 subtag && isLettersOrDigits subtag

/-- A key of the extension `u`: a letter or digit and a letter. -/
def isUnicodeKey : Subtag → Bool
  | [first, second] => first.isAlphanum && second.isAlpha
  | _ => false

/-- A key of the extension `t`: a letter and a digit. -/
def isTransformKey : Subtag → Bool
  | [first, second] => first.isAlpha && second.isDigit
  | _ => false

/-- Script, region and variants behind a language, with what is left. -/
structure Qualified where
  script : Option Subtag
  region : Option Subtag
  variants : List Subtag
  rest : List Subtag

def takeIf (isKind : Subtag → Bool) : List Subtag → Option Subtag × List Subtag
  | subtag :: rest => if isKind subtag then (some subtag, rest) else (none, subtag :: rest)
  | [] => (none, [])

def readQualified (subtags : List Subtag) : Qualified :=
  let (script, behindScript) := takeIf isScript subtags
  let (region, behindRegion) := takeIf isRegion behindScript
  ⟨script, region, behindRegion.takeWhile isVariant, behindRegion.dropWhile isVariant⟩

/-- The subtags that belong to keys of the extension `u`. A key is the only subtag of two
characters there, and one that is malformed spoils the tag. -/
def takeKeyed : List Subtag → Option (List Subtag × List Subtag)
  | [] => some ([], [])
  | subtag :: rest =>
    if subtag.length = 2 then
      if isUnicodeKey subtag then
        (takeKeyed rest).map fun (taken, rest) => (subtag :: taken, rest)
      else none
    else if isMember 3 subtag then
      (takeKeyed rest).map fun (taken, rest) => (subtag :: taken, rest)
    else some ([], subtag :: rest)

/-- The extension `u`: attributes and then keys with values, at least one of the two. -/
def readUnicode (subtags : List Subtag) : Option (List Subtag × List Subtag) := do
  let attributes := subtags.takeWhile (isMember 3)
  let behind := subtags.dropWhile (isMember 3)
  let (keyed, rest) ←
    if behind.head?.any (·.length = 2) then takeKeyed behind else some ([], behind)
  let taken := attributes ++ keyed
  if taken.isEmpty then none else some (taken, rest)

/-- The fields of the extension `t`. Every key has at least one value; `valued` tells whether
the last key has one. -/
def takeFields (valued : Bool) : List Subtag → Option (List Subtag × List Subtag)
  | [] => if valued then some ([], []) else none
  | subtag :: rest =>
    if isTransformKey subtag then
      if valued then (takeFields false rest).map fun (taken, rest) => (subtag :: taken, rest)
      else none
    else if isMember 3 subtag then
      (takeFields true rest).map fun (taken, rest) => (subtag :: taken, rest)
    else if valued then some ([], subtag :: rest)
    else none

def readFields (subtags : List Subtag) : Option (List Subtag × List Subtag) :=
  if subtags.head?.any isTransformKey then takeFields true subtags else some ([], subtags)

def readTransformed (subtags : List Subtag) : Option (List Subtag × List Subtag) :=
  if subtags.head?.any isLanguage then
    let qualified := readQualified (subtags.drop 1)
    if qualified.variants.Nodup then
      some (subtags.take (subtags.length - qualified.rest.length), qualified.rest)
    else none
  else some ([], subtags)

/-- The extension `t`: a language, and fields, at least one of the two. -/
def readTransform (subtags : List Subtag) : Option (List Subtag × List Subtag) := do
  let (language, behind) ← readTransformed subtags
  let (fields, rest) ← readFields behind
  let taken := language ++ fields
  if taken.isEmpty then none else some (taken, rest)

/-- The extension `x` takes all that follows. -/
def readPrivate (subtags : List Subtag) : Option (List Subtag × List Subtag) :=
  if !subtags.isEmpty && subtags.all (isMember 1) then some (subtags, []) else none

def readOther (subtags : List Subtag) : Option (List Subtag × List Subtag) :=
  let taken := subtags.takeWhile (isMember 2)
  if taken.isEmpty then none else some (taken, subtags.dropWhile (isMember 2))

def readExtension (singleton : Char) (subtags : List Subtag) :
    Option (List Subtag × List Subtag) :=
  match singleton with
  | 'u' => readUnicode subtags
  | 't' => readTransform subtags
  | 'x' => readPrivate subtags
  | _ => readOther subtags

/-- All extensions, as many as `fuel` at most. No two begin alike. -/
def readExtensions (seen : List Char) : Nat → List Subtag → Option (List Extension)
  | _, [] => some []
  | 0, _ :: _ => none
  | fuel + 1, subtag :: rest =>
    match subtag with
    | [singleton] =>
      if singleton.isAlphanum && singleton ∉ seen then do
        let (taken, rest) ← readExtension singleton rest
        let extensions ← readExtensions (singleton :: seen) fuel rest
        return ⟨String.singleton singleton, taken.map String.ofList⟩ :: extensions
      else none
    | _ => none

def capitalized : Subtag → String
  | first :: rest => String.ofList (first.toUpper :: rest)
  | [] => ""

def ofSubtags? : List Subtag → Option Tag
  | [] => none
  | language :: subtags => do
    let qualified := readQualified subtags
    if isLanguage language && decide qualified.variants.Nodup then
      let extensions ← readExtensions [] qualified.rest.length qualified.rest
      return ⟨String.ofList language, qualified.script.map capitalized,
        qualified.region.map fun region => String.ofList (region.map Char.toUpper),
        (qualified.variants.map String.ofList).mergeSort isAtMost, extensions⟩
    else none

def splitHyphens : List Char → List Subtag
  | [] => [[]]
  | c :: rest =>
    if c = '-' then [] :: splitHyphens rest
    else match splitHyphens rest with
      | first :: others => (c :: first) :: others
      | [] => [[c]]

/-- A code without blanks around it, in which hyphens divide the subtags. -/
def normalized (code : String) : List Char :=
  (trimList code.toList).map fun c => if c = '_' then '-' else c

/-- The tag that a text spells, in whatever case. -/
def ofText? (text : List Char) : Option Tag :=
  ofSubtags? (splitHyphens (text.map Char.toLower))

def read? (code : String) : Option Tag :=
  ofText? (normalized code)

/-- The tag of a code. A code that is no tag stands for English. -/
def resolve (code : String) : Tag :=
  (read? code).getD english

end Parlance.Locale
