import Parlance.Format.Builtin
import Parlance.Markup.Html
import Parlance.Markup.Markdown
import Parlance.Pattern.Inspect
import Parlance.Pattern.Opening
import Parlance.Pattern.Reader
import Parlance.Render.Message
import Parlance.Render.Registration

namespace Parlance

open Parlance.Format Parlance.Markup Parlance.Render

/-! # The engine

An engine compiles patterns to messages and renders messages. A strict engine gives every
failure to its caller. Any other engine never fails: it uses a pattern that is none as plain
text, and leaves out what it cannot render.
-/

inductive TagStyle where
  | html
  | markdown
deriving Repr, DecidableEq, Inhabited

structure Engine where
  strict : Bool := false
  tagStyle : TagStyle := .html
  /-- A tag formatter in place of that of the style. -/
  customTags : Option TagFormatter := none
  registry : Registry := Registry.builtin
  categories : Plural.Categories := Plural.knownCategories

inductive Message where
  | plain (text : String)
  | compiled (nodes : List Node)
deriving Repr, DecidableEq

def Message.nodes : Message → List Node
  | .plain _ => []
  | .compiled nodes => nodes

namespace Engine

def tags (engine : Engine) : TagFormatter :=
  match engine.customTags, engine.tagStyle with
  | some custom, _ => custom
  | none, .html => .html
  | none, .markdown => .markdown

def context (engine : Engine) (locale : String) (path : Option String) : Context :=
  ⟨locale, path, engine.categories⟩

/-- The nodes of a pattern, read without regard to openings or marks. -/
def readNodes (engine : Engine) (pattern : String) : Except Error (List Node) :=
  (Pattern.parse engine.registry.directiveKinds pattern).mapError .pattern

def compile (nodes : List Node) : Outcome Message :=
  .recorded (.compiled nodes) (.compiled nodes.length)

/-- The part of a pattern that has to be read, if any has. -/
def sourceOf? (pattern : String) : Option String :=
  match Pattern.unmarked? pattern with
  | some rest => some rest
  | none => if Pattern.needsReading pattern then some pattern else none

/-- The message of a pattern. Only patterns with openings or a mark are read. -/
def parse (engine : Engine) (pattern : String) : Outcome Message :=
  match sourceOf? pattern with
  | none => .ok (.plain pattern)
  | some source =>
    match engine.readNodes source with
    | .ok nodes => compile nodes
    | .error error =>
      if engine.strict then .error error
      else .recorded (.plain pattern) (.verbatim error pattern)

def setting (engine : Engine) (locale : String) (path : Option String)
    (arguments : Arguments) : Setting :=
  ⟨engine.registry, engine.tags, engine.strict, engine.context locale path, arguments⟩

/-- The rendering of the message of the pattern ends, if the pattern has one. -/
def Ends (engine : Engine) (locale : String) (path : Option String) (arguments : Arguments)
    (pattern : String) : Prop :=
  ∀ message, (engine.parse pattern).result = .ok message →
    (engine.setting locale path arguments).Ends message.nodes

def render (engine : Engine) (locale : String) (path : Option String) (arguments : Arguments)
    (nodes : List Node) (ends : (engine.setting locale path arguments).Ends nodes) :
    Outcome String :=
  renderList (engine.setting locale path arguments) nodes ends

def renderMessage (engine : Engine) (locale : String) (path : Option String)
    (arguments : Arguments) (message : Message)
    (ends : (engine.setting locale path arguments).Ends message.nodes) : Outcome String :=
  match message, ends with
  | .plain text, _ => .ok text
  | .compiled nodes, ends => engine.render locale path arguments nodes ends

def format (engine : Engine) (locale : String) (path : Option String) (arguments : Arguments)
    (pattern : String) (ends : engine.Ends locale path arguments pattern) : Outcome String :=
  (engine.parse pattern).andThenOf fun message parsed =>
    engine.renderMessage locale path arguments message (ends message parsed)

def inspectTagStyle : TagStyle → String
  | .html => "Html"
  | .markdown => "Markdown"

def inspectBool (value : Bool) : String :=
  if value then "true" else "false"

/-- The engine for inspection. Formatters are shown by their kinds. -/
def inspect (engine : Engine) : String :=
  Node.inspectRecord "MessageFormat" [
    Node.inspectField "strict" (inspectBool engine.strict),
    Node.inspectField "tag_style" (inspectTagStyle engine.tagStyle),
    Node.inspectField "custom_tag_formatter" (inspectBool engine.customTags.isSome),
    Node.inspectField "formatters"
      (Node.inspectItems ((Keyed.keys engine.registry).map Text.quoted)),
    ".."]

end Engine

def Message.inspect : Message → String
  | .plain text => "Plain(" ++ Text.quoted text ++ ")"
  | .compiled nodes =>
    "Compiled(" ++ Node.inspectRecord "CompiledMessage"
      [Node.inspectField "nodes" (Node.inspectList nodes), ".."] ++ ")"

end Parlance
