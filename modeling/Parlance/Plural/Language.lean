import Parlance.Locale.Tag
import Parlance.Plural.Cardinal
import Parlance.Plural.Ordinal

namespace Parlance.Plural

open Parlance.Locale

/-! # The rules of a locale

The rules are those of the language, as far as it is written in its usual script. The script
is the one that the tag names, whatever the region, and else the one that is used in the
region. Another script has no rules of its own and gives every number the category `other`. A
few languages follow the rules of another one.
-/

/-- Scripts and the languages that are usually written in them. All other languages are
usually written in Latin letters. -/
def usualScripts : List (String × List String) := [
  ("Arab", ["ar", "ckb", "fa", "ks", "ps", "sd", "ug", "ur"]),
  ("Armn", ["hy"]),
  ("Beng", ["as", "bn"]),
  ("Cans", ["csw"]),
  ("Cher", ["chr"]),
  ("Cyrl", ["be", "bg", "cv", "kk", "ky", "mk", "mn", "ru", "sr", "tg", "uk"]),
  ("Deva", ["bho", "brx", "doi", "hi", "kok", "mr", "ne"]),
  ("Ethi", ["am", "ti"]),
  ("Geor", ["ka"]),
  ("Grek", ["el"]),
  ("Gujr", ["gu"]),
  ("Guru", ["pa"]),
  ("Hebr", ["he"]),
  ("Knda", ["kn"]),
  ("Laoo", ["lo"]),
  ("Mlym", ["ml"]),
  ("Olck", ["sat"]),
  ("Orya", ["or"]),
  ("Sinh", ["si"]),
  ("Syrc", ["syr"]),
  ("Taml", ["ta"]),
  ("Telu", ["te"])]

def usualScript (language : String) : String :=
  ((usualScripts.find? fun row => language ∈ row.2).map Prod.fst).getD "Latn"

/-- Languages and the regions where they are written in another script than usual. -/
def regionsOfOtherScript : List (String × List String) := [
  ("az", ["IQ", "IR", "RU"]),
  ("ha", ["CM", "SD"]),
  ("kk", ["AF", "CN", "IR", "MN"]),
  ("ku", ["AM", "AZ", "GE", "IQ", "IR", "LB", "TM"]),
  ("ky", ["CN", "TR"]),
  ("mn", ["CN"]),
  ("ms", ["CC"]),
  ("pa", ["PK"]),
  ("sd", ["IN"]),
  ("sr", ["ME", "RO", "TR"]),
  ("tg", ["PK"]),
  ("ug", ["KZ", "MN"]),
  ("uz", ["AF", "CN"])]

/-- The regions that count in Portuguese as Portugal does. -/
def portugueseRegions : List String :=
  ["PT", "AO", "CH", "CV", "FR", "GQ", "GW", "LU", "MO", "MZ", "ST", "TL"]

def isWrittenOtherwiseIn (region language : String) : Bool :=
  regionsOfOtherScript.any fun row => row.1 == language && region ∈ row.2

/-- Whether the language is written in its usual script. A script in the tag decides; only
without one does the region. -/
def isUsuallyWritten (tag : Tag) : Bool :=
  match tag.script with
  | some script => script == usualScript tag.language
  | none => !tag.region.any (isWrittenOtherwiseIn · tag.language)

/-- The language whose rules apply to a locale. Hindi in Latin letters follows English. -/
def ruledLanguage? (tag : Tag) : Option String :=
  if tag.script = some "Latn" ∧ tag.language = "hi" then some "en"
  else if tag.script = some "Latn" ∧ tag.language = "kok" then some "kok"
  else if isUsuallyWritten tag then some tag.language
  else none

def countingLanguage (tag : Tag) (language : String) : String :=
  if language = "nb" ∨ language = "nn" then "no"
  else if language = "pt" ∧ tag.region.any (· ∈ portugueseRegions) then "it"
  else language

def ruleOf (tag : Tag) (kind : Kind) : Rule :=
  match ruledLanguage? tag with
  | none => []
  | some language =>
    match kind with
    | .cardinal => (findRule? cardinalRules (countingLanguage tag language)).getD []
    | .ordinal => (findRule? ordinalRules language).getD []

def category (code : String) (kind : Kind) (number : Int) : Category :=
  (ruleOf (resolve code) kind).category number

end Parlance.Plural
