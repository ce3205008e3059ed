import Parlance.Plural.Language

namespace Parlance.Plural

open Parlance.Locale

/-! # Remembered rules

A memo keeps the rules of every locale and kind that it was asked for. Codes of the same
locale share an entry, and all codes that are no locale share that of English. The memo knows
nothing of locales and rules itself but asks a source of them.
-/

/-- What is known of locales and of their rules. A locale may have no rules; English has them. -/
structure RuleSource (Place Rules : Type) where
  read? : List Char → Option Place
  english : Place
  rules? : Place → Kind → Option Rules
  rules_english : ∀ kind, (rules? english kind).isSome
  category : Rules → Int → Category

namespace RuleSource

variable {Place Rules : Type}

/-- The locale of a code. A code that is no locale stands for English. -/
def resolve (source : RuleSource Place Rules) (code : String) : Place :=
  (source.read? (normalized code)).getD source.english

def englishRules (source : RuleSource Place Rules) (kind : Kind) : Rules :=
  (source.rules? source.english kind).get (source.rules_english kind)

/-- The rules of a locale, or those of English for a locale without any. -/
def build (source : RuleSource Place Rules) (slot : Place × Kind) : Rules :=
  (source.rules? slot.1 slot.2).getD (source.englishRules slot.2)

/-- Locale tags with rules for every one of them. -/
def ofRules (rules : Tag → Kind → Rule) : RuleSource Tag Rule where
  read? := ofText?
  english := Locale.english
  rules? tag kind := some (rules tag kind)
  rules_english _ := rfl
  category := Rule.category

end RuleSource

structure Memo (Place Rules : Type) where
  entries : List ((Place × Kind) × Rules)

namespace Memo

variable {Place Rules : Type}

def empty : Memo Place Rules := ⟨[]⟩

def slots (memo : Memo Place Rules) : List (Place × Kind) :=
  memo.entries.map Prod.fst

variable [DecidableEq Place]

def find? (memo : Memo Place Rules) (slot : Place × Kind) : Option Rules :=
  (memo.entries.find? fun entry => entry.1 = slot).map Prod.snd

/-- The rules of a locale, built from the source unless the memo has them. -/
def rules (source : RuleSource Place Rules) (memo : Memo Place Rules) (slot : Place × Kind) :
    Rules × Memo Place Rules :=
  match memo.find? slot with
  | some rules => (rules, memo)
  | none => (source.build slot, ⟨(slot, source.build slot) :: memo.entries⟩)

def category (source : RuleSource Place Rules) (memo : Memo Place Rules) (code : String)
    (kind : Kind) (number : Int) : Category × Memo Place Rules :=
  let (rules, memo) := memo.rules source (source.resolve code, kind)
  (source.category rules number, memo)

def answers (source : RuleSource Place Rules) :
    Memo Place Rules → List (String × Kind × Int) → List Category × Memo Place Rules
  | memo, [] => ([], memo)
  | memo, (code, kind, number) :: requests =>
    let (category, memo) := memo.category source code kind number
    let (rest, memo) := answers source memo requests
    (category :: rest, memo)

def categories (rules : Tag → Kind → Rule) (memo : Memo Tag Rule)
    (requests : List (String × Kind × Int)) : List Category × Memo Tag Rule :=
  memo.answers (.ofRules rules) requests

end Memo

end Parlance.Plural
