import Parlance.Proofs.Pattern.Runs

namespace Parlance.Pattern

open Parlance.Text

/-! # The grammar of patterns

The grammar says which texts spell which messages. It knows no reader: every relation holds of
a text, of what its beginning spells, and of the rest behind that beginning, so nothing is left
out and nothing is used twice. A text may be cut into pieces in several ways; all of them spell
the same message once adjacent texts are joined.
-/

/-- A word of a class of characters with blanks around it. -/
def Word (isMember : Char → Bool) (input : List Char) (word : String) (rest : List Char) : Prop :=
  ∃ before name after, AllBlank before ∧ IsRun isMember name ∧ AllBlank after ∧
    input = before ++ (name ++ (after ++ rest)) ∧ word = String.ofList name

/-- What may follow the kind of a directive without branches. A blank style is none. -/
inductive StyleText : List Char → Option String → List Char → Prop
  | absent : StyleText rest none rest
  | blank (blank : AllBlank raw) : StyleText (',' :: (raw ++ rest)) none rest
  | text (blankBefore : AllBlank before) (trimmed : Trimmed style)
      (noBrace : ∀ c ∈ style, isBrace c = false) (blankAfter : AllBlank after) :
      StyleText (',' :: (before ++ (style ++ (after ++ rest)))) (some (String.ofList style)) rest

def isQuote (c : Char) : Bool :=
  c ∈ ['"', '\'']

/-- A value may begin with a quote and not be quoted, but then the quote never occurs again. -/
inductive AttributeValue : List Char → String → List Char → Prop
  | quoted (isQuote : isQuote quote = true) (inside : quote ∉ value) :
      AttributeValue (quote :: (value ++ quote :: rest)) (String.ofList value) rest
  | unquoted (run : IsRun isUnquotedChar value)
      (unclosed : ∀ quote more, value = quote :: more → isQuote quote = true →
        quote ∉ more ++ rest) :
      AttributeValue (value ++ rest) (String.ofList value) rest

/-- The attributes of a tag as they are written, each with blanks before it. -/
inductive Attributes : List Char → List (String × Option String) → List Char → Prop
  | nil : Attributes rest [] rest
  | bare (blanks : IsRun isBlank before) (name : IsRun isTagChar written)
      (more : Attributes behind entries rest) :
      Attributes (before ++ (written ++ behind)) ((String.ofList written, none) :: entries) rest
  | valued (blanks : IsRun isBlank before) (name : IsRun isTagChar written)
      (blankBefore : AllBlank left) (blankAfter : AllBlank right)
      (value : AttributeValue input text behind) (more : Attributes behind entries rest) :
      Attributes (before ++ (written ++ (left ++ '=' :: (right ++ input))))
        ((String.ofList written, some text) :: entries) rest

def isTagStart (c : Char) : Bool :=
  c.isAlpha || c == '/'

/-- The smallest parts of a pattern. Which kinds of directives have branches is given. -/
inductive Lexeme (kinds : DirectiveKinds) : List Char → Token → List Char → Prop
  | run (run : IsRun isOrdinary text) :
      Lexeme kinds (text ++ rest) (.text (String.ofList text)) rest
  | special (special : isSpecial c = true) :
      Lexeme kinds ('\\' :: c :: rest) (.text (String.singleton c)) rest
  | verbatim (plain : isSpecial c = false) :
      Lexeme kinds ('\\' :: c :: rest) (.text (String.ofList ['\\', c])) rest
  | lastBackslash : Lexeme kinds ['\\'] (.text "\\") []
  | angle (noTag : Stops isTagStart rest) : Lexeme kinds ('<' :: rest) (.text "<") rest
  | numberSign : Lexeme kinds ('#' :: rest) .numberSign rest
  | value (named : Word isNameChar input name ('}' :: rest)) :
      Lexeme kinds ('{' :: input) (.argument name valueKind none) rest
  | format (named : Word isNameChar input name (',' :: behind))
      (typed : Word isNameChar behind kind styled) (plain : kinds.isBranching kind = false)
      (style : StyleText styled written ('}' :: rest)) :
      Lexeme kinds ('{' :: input) (.argument name kind written) rest
  | branching (named : Word isNameChar input name (',' :: behind))
      (typed : Word isNameChar behind kind (',' :: rest))
      (branching : kinds.isBranching kind = true) :
      Lexeme kinds ('{' :: input) (.branching name kind) rest
  | tag (letter : first.isAlpha = true) (name : ∀ c ∈ more, isTagChar c = true)
      (attributes : Attributes behind entries (blanks ++ '>' :: rest))
      (blank : AllBlank blanks) :
      Lexeme kinds ('<' :: first :: (more ++ behind))
        (.tag (String.ofList (first :: more)) (Keyed.ofList entries)) rest

/-- The closing tag of a name. -/
def ClosingTag (input : List Char) (name : String) (rest : List Char) : Prop :=
  ∃ blanks, AllBlank blanks ∧ input = '<' :: '/' :: (name.toList ++ (blanks ++ '>' :: rest))

/-- What a number sign stands for in the branches of a directive. -/
def branchScope (kinds : DirectiveKinds) (scope : Option String) (name kind : String) :
    Option String :=
  if kinds.isCounting kind then some name else scope

mutual

/-- A piece of a pattern spells one node. `scope` is the argument of the innermost counting
directive around it. -/
inductive Piece (kinds : DirectiveKinds) : Option String → List Char → Node → List Char → Prop
  | text (lexeme : Lexeme kinds input (.text value) rest) :
      Piece kinds scope input (.text value) rest
  | literalSign (lexeme : Lexeme kinds input .numberSign rest) :
      Piece kinds none input (.text "#") rest
  | count (lexeme : Lexeme kinds input .numberSign rest) :
      Piece kinds (some name) input (.format name countKind none) rest
  | format (lexeme : Lexeme kinds input (.argument name kind style) rest) :
      Piece kinds scope input (.format name kind style) rest
  | message (lexeme : Lexeme kinds input (.branching name kind) body)
      (branches : Branches kinds (branchScope kinds scope name kind) body entries rest)
      (nonempty : entries ≠ []) (distinct : (Keyed.keys entries).Nodup) :
      Piece kinds scope input (.message name kind (Keyed.ofList entries)) rest
  | tag (lexeme : Lexeme kinds input (.tag name attributes) body)
      (children : Pieces kinds scope body nodes closing) (closed : ClosingTag closing name rest) :
      Piece kinds scope input (.tag name attributes (Node.joinTexts nodes)) rest

inductive Pieces (kinds : DirectiveKinds) :
    Option String → List Char → List Node → List Char → Prop
  | nil : Pieces kinds scope rest [] rest
  | cons (first : Piece kinds scope input node behind)
      (more : Pieces kinds scope behind nodes rest) :
      Pieces kinds scope input (node :: nodes) rest

/-- The branches of a directive as they are written, and its closing brace. -/
inductive Branches (kinds : DirectiveKinds) :
    Option String → List Char → List (String × List Node) → List Char → Prop
  | close (blank : AllBlank blanks) : Branches kinds scope (blanks ++ '}' :: rest) [] rest
  | branch (keyed : Word isKeyChar input key ('{' :: body))
      (message : Pieces kinds scope body nodes ('}' :: behind))
      (more : Branches kinds scope behind entries rest) :
      Branches kinds scope input ((key, Node.joinTexts nodes) :: entries) rest

end

/-- The whole pattern spells the message. -/
def Spells (kinds : DirectiveKinds) (pattern : String) (nodes : List Node) : Prop :=
  ∃ pieces, Pieces kinds none pattern.toList pieces [] ∧ Node.joinTexts pieces = nodes

end Parlance.Pattern
