import Parlance.Proofs.Pattern.Steps

namespace Parlance.Pattern

open Parlance.Text

/-! # Another rest behind a text

What the reader takes from the front of its input it takes with another rest behind it as well, if
the other rest brings no quote that could close a value and does not turn an angle bracket into the
beginning of a tag. A backslash at the end of the input is taken for text only there; with a second
backslash in front of the other rest it is the same text.
-/

def NoQuote (text : List Char) : Prop :=
  ∀ c ∈ text, isQuote c = false

/-- All quotes in the other rest are quotes of the rest. -/
def AddsNoQuote (rest next : List Char) : Prop :=
  ∀ c ∈ next, isQuote c = true → c ∈ rest

/-- No quote of the other rest closes a value that the input leaves open. -/
def ClosesNoQuote (input rest next : List Char) : Prop :=
  ∀ c ∈ next, isQuote c = true → c ∈ input → c ∈ rest

/-- The other rest may take the place of the rest. -/
structure Follows (rest next : List Char) : Prop where
  quotes : AddsNoQuote rest next
  tagStart : Stops isTagStart rest → Stops isTagStart next

/-- The other rest may take the place of the rest behind what this input begins with. -/
structure Replaces (input rest next : List Char) : Prop where
  quotes : ClosesNoQuote input rest next
  tagStart : input = '<' :: rest → Stops isTagStart rest → Stops isTagStart next

instance (text : List Char) : Decidable (NoQuote text) :=
  List.decidableBAll (fun c => isQuote c = false) text

variable {input rest next : List Char}

section Quotes

@[simp] theorem noQuote_nil : NoQuote [] :=
  fun _ member => absurd member List.not_mem_nil

@[simp] theorem noQuote_cons {c : Char} {text : List Char} :
    NoQuote (c :: text) ↔ isQuote c = false ∧ NoQuote text := by
  simp only [NoQuote, List.forall_mem_cons]

@[simp] theorem noQuote_append {text more : List Char} :
    NoQuote (text ++ more) ↔ NoQuote text ∧ NoQuote more := by
  simp only [NoQuote, List.forall_mem_append]

theorem NoQuote.adds (plain : NoQuote next) (rest : List Char) : AddsNoQuote rest next := by
  intro c member quote
  rw [plain c member] at quote
  contradiction

theorem AddsNoQuote.append (adds : AddsNoQuote rest next) (text : List Char) :
    AddsNoQuote (text ++ rest) (text ++ next) := by
  intro c member quote
  rcases List.mem_append.mp member with before | behind
  · exact List.mem_append_left rest before
  · exact List.mem_append_right text (adds c behind quote)

theorem AddsNoQuote.closes (adds : AddsNoQuote rest next) (input : List Char) :
    ClosesNoQuote input rest next :=
  fun c member quote _ => adds c member quote

/-- What stands between a part of the input and the rest may stand there with the other rest. -/
theorem ClosesNoQuote.inside {part : List Char} (closes : ClosesNoQuote input rest next)
    (within : part ⊆ input) (between : List Char) :
    ClosesNoQuote part (between ++ rest) (between ++ next) := by
  intro c member quote present
  rcases List.mem_append.mp member with before | behind
  · exact List.mem_append_left rest before
  · exact List.mem_append_right between (closes c behind quote (within present))

theorem Follows.replaces (follows : Follows rest next) (input : List Char) :
    Replaces input rest next :=
  ⟨follows.quotes.closes input, fun _ => follows.tagStart⟩

theorem not_isQuote_of_isTagChar {c : Char} (tagChar : isTagChar c = true) : isQuote c = false := by
  cases quote : isQuote c with
  | false => rfl
  | true =>
      simp only [isQuote, List.mem_cons, List.not_mem_nil, or_false, decide_eq_true_eq] at quote
      rcases quote with rfl | rfl
      · exact absurd tagChar (by decide +kernel)
      · exact absurd tagChar (by decide +kernel)

end Quotes

section Parts

theorem Word.taken {isMember : Char → Bool} {word : String}
    (named : Word isMember input word rest) :
    ∃ taken, input = taken ++ rest ∧ ∀ next, Word isMember (taken ++ next) word next := by
  obtain ⟨before, name, after, blankBefore, run, blankAfter, rfl, rfl⟩ := named
  refine ⟨before ++ (name ++ after), by simp only [List.append_assoc], fun next => ?_⟩
  exact ⟨before, name, after, blankBefore, run, blankAfter, by simp only [List.append_assoc], rfl⟩

theorem StyleText.taken {written : Option String} (style : StyleText input written rest) :
    ∃ taken, input = taken ++ rest ∧ ∀ next, StyleText (taken ++ next) written next := by
  cases style with
  | absent => exact ⟨[], rfl, fun next => .absent⟩
  | @blank raw _ blank => exact ⟨',' :: raw, rfl, fun next => .blank blank⟩
  | @text before style after _ blankBefore trimmed noBrace blankAfter =>
      refine ⟨',' :: (before ++ (style ++ after)), by simp, fun next => ?_⟩
      have text := @StyleText.text before style after next blankBefore trimmed noBrace blankAfter
      simpa using text

theorem AttributeValue.taken {text : String} (value : AttributeValue input text rest) :
    ∃ taken, input = taken ++ rest ∧
      ∀ next, ClosesNoQuote input rest next → AttributeValue (taken ++ next) text next := by
  cases value with
  | @quoted quote value _ isQuote inside =>
      refine ⟨quote :: (value ++ [quote]), by simp, fun next _ => ?_⟩
      have quoted : AttributeValue (quote :: (value ++ quote :: next)) _ next :=
        .quoted isQuote inside
      simpa using quoted
  | @unquoted value _ run unclosed =>
      refine ⟨value, rfl, fun next closes => .unquoted run ?_⟩
      rintro quote more rfl isQuote member
      have missing := unclosed quote more rfl isQuote
      rcases List.mem_append.mp member with inside | behind
      · exact missing (List.mem_append_left rest inside)
      · exact missing (List.mem_append_right more (closes quote behind isQuote List.mem_cons_self))

theorem Attributes.taken {entries : List (String × Option String)}
    (attributes : Attributes input entries rest) :
    ∃ taken, input = taken ++ rest ∧
      ∀ next, ClosesNoQuote input rest next → Attributes (taken ++ next) entries next := by
  induction attributes with
  | nil => exact ⟨[], rfl, fun next _ => .nil⟩
  | @bare before written behind entries rest blanks name more ih =>
      obtain ⟨taken, rfl, refit⟩ := ih
      refine ⟨before ++ (written ++ taken), by simp, fun next closes => ?_⟩
      have later : ClosesNoQuote (taken ++ rest) rest next :=
        closes.inside (fun c member => by simp_all) []
      have bare := Attributes.bare blanks name (refit next later)
      simpa using bare
  | @valued before written left right input text behind entries rest blanks name blankBefore
      blankAfter value more ih =>
      obtain ⟨taken, rfl, refit⟩ := ih
      obtain ⟨takenValue, rfl, refitValue⟩ := value.taken
      refine ⟨before ++ (written ++ (left ++ '=' :: (right ++ (takenValue ++ taken)))), by simp,
        fun next closes => ?_⟩
      have ofValue :
          ClosesNoQuote (takenValue ++ (taken ++ rest)) (taken ++ rest) (taken ++ next) :=
        closes.inside (fun c member => by simp_all) taken
      have later : ClosesNoQuote (taken ++ rest) rest next :=
        closes.inside (fun c member => by simp_all) []
      have valued := Attributes.valued blanks name blankBefore blankAfter (refitValue _ ofValue)
        (refit next later)
      simpa using valued

end Parts

/-- The relation of an input and its rest holds of what is taken from the input with any other rest
behind it. If there is no rest, something may be filled in. -/
def Refits (relation : List Char → List Char → Prop) (input rest : List Char) : Prop :=
  ∃ taken filling, input = taken ++ rest ∧ NoQuote filling ∧ (filling = [] ∨ rest = []) ∧
    ∀ next, Follows rest next → relation (taken ++ (filling ++ next)) next

namespace Refits

variable {relation other : List Char → List Char → Prop}

theorem of_taken (taken : List Char) (split : input = taken ++ rest)
    (refit : ∀ next, Follows rest next → relation (taken ++ next) next) :
    Refits relation input rest :=
  ⟨taken, [], split, by decide, Or.inl rfl, refit⟩

theorem imp (refits : Refits relation input rest)
    (implies : ∀ input rest, relation input rest → other input rest) : Refits other input rest := by
  obtain ⟨taken, filling, split, plain, gap, refit⟩ := refits
  exact ⟨taken, filling, split, plain, gap, fun next follows => implies _ _ (refit next follows)⟩

end Refits

variable {kinds : DirectiveKinds} {outer : Option String}

/-- What a brace opens does not hang on what stands behind it. -/
theorem Lexeme.braced_taken {token : Token} (lexeme : Lexeme kinds ('{' :: input) token rest) :
    ∃ taken, input = taken ++ rest ∧ ∀ next, Lexeme kinds ('{' :: (taken ++ next)) token next := by
  generalize same : '{' :: input = braced at lexeme
  cases lexeme with
  | run run =>
      have ordinary := run.head '{' (congrArg List.head? same.symm)
      contradiction
  | special | verbatim | lastBackslash | angle | numberSign | tag => cases same
  | value named =>
      cases same
      obtain ⟨name, rfl, refitName⟩ := named.taken
      refine ⟨name ++ ['}'], by simp, fun next => ?_⟩
      simp only [List.append_assoc, List.cons_append, List.nil_append]
      exact .value (refitName _)
  | format named typed plain style =>
      cases same
      obtain ⟨name, rfl, refitName⟩ := named.taken
      obtain ⟨kind, rfl, refitKind⟩ := typed.taken
      obtain ⟨written, rfl, refitStyle⟩ := style.taken
      refine ⟨name ++ ',' :: (kind ++ (written ++ ['}'])), by simp, fun next => ?_⟩
      simp only [List.append_assoc, List.cons_append, List.nil_append]
      exact .format (refitName _) (refitKind _) plain (refitStyle _)
  | branching named typed branching =>
      cases same
      obtain ⟨name, rfl, refitName⟩ := named.taken
      obtain ⟨kind, rfl, refitKind⟩ := typed.taken
      refine ⟨name ++ ',' :: (kind ++ [',']), by simp, fun next => ?_⟩
      simp only [List.append_assoc, List.cons_append, List.nil_append]
      exact .branching (refitName _) (refitKind _) branching

theorem Lexeme.branching_taken {name kind : String}
    (lexeme : Lexeme kinds input (.branching name kind) rest) :
    ∃ taken, input = '{' :: (taken ++ rest) ∧
      ∀ next, Lexeme kinds ('{' :: (taken ++ next)) (.branching name kind) next := by
  cases lexeme with
  | branching named typed branching =>
      obtain ⟨taken, rfl, refit⟩ := (Lexeme.branching named typed branching).braced_taken
      exact ⟨taken, rfl, refit⟩

/-- A lexeme stays what it is with another rest, but for a backslash at the end of the input. -/
theorem Lexeme.taken {token : Token} (lexeme : Lexeme kinds input token rest) :
    (input = ['\\'] ∧ rest = [] ∧ token = .text "\\") ∨ ∃ taken, input = taken ++ rest ∧
      ∀ next, Replaces input rest next → Lexeme kinds (taken ++ next) token next := by
  cases lexeme with
  | @run text _ run => exact Or.inr ⟨text, rfl, fun next _ => .run run⟩
  | @special c _ special => exact Or.inr ⟨['\\', c], rfl, fun next _ => .special special⟩
  | @verbatim c _ plain => exact Or.inr ⟨['\\', c], rfl, fun next _ => .verbatim plain⟩
  | lastBackslash => exact Or.inl ⟨rfl, rfl, rfl⟩
  | angle noTag =>
      exact Or.inr ⟨['<'], rfl, fun next replaces => .angle (replaces.tagStart rfl noTag)⟩
  | numberSign => exact Or.inr ⟨['#'], rfl, fun next _ => .numberSign⟩
  | value named =>
      obtain ⟨taken, rfl, refit⟩ := (Lexeme.value named).braced_taken
      exact Or.inr ⟨'{' :: taken, rfl, fun next _ => refit next⟩
  | format named typed plain style =>
      obtain ⟨taken, rfl, refit⟩ := (Lexeme.format named typed plain style).braced_taken
      exact Or.inr ⟨'{' :: taken, rfl, fun next _ => refit next⟩
  | branching named typed branching =>
      obtain ⟨taken, rfl, refit⟩ := (Lexeme.branching named typed branching).braced_taken
      exact Or.inr ⟨'{' :: taken, rfl, fun next _ => refit next⟩
  | tag letter name attributes blank =>
      rename_i more behind entries blanks first
      obtain ⟨taken, rfl, refit⟩ := attributes.taken
      refine Or.inr ⟨'<' :: first :: (more ++ (taken ++ (blanks ++ ['>']))), by simp,
        fun next replaces => ?_⟩
      have closes := replaces.quotes.inside
        (fun c (member : c ∈ taken ++ (blanks ++ '>' :: rest)) => by simp_all) (blanks ++ ['>'])
      simp only [List.append_assoc, List.cons_append, List.nil_append] at closes ⊢
      exact .tag letter name (refit _ closes) blank

theorem Lexeme.refits {token : Token} (lexeme : Lexeme kinds input token rest) :
    Refits (Lexeme kinds · token ·) input rest := by
  rcases lexeme.taken with ⟨rfl, rfl, rfl⟩ | ⟨taken, split, refit⟩
  · refine ⟨['\\'], ['\\'], rfl, by decide, Or.inr rfl, fun next _ => ?_⟩
    exact .special (by decide)
  · exact .of_taken taken split fun next follows => refit next (follows.replaces input)

theorem ClosingTag.taken {name : String} (closing : ClosingTag input name rest) :
    ∃ taken, input = taken ++ rest ∧ ∀ next, ClosingTag (taken ++ next) name next := by
  obtain ⟨blanks, blank, rfl⟩ := closing
  refine ⟨'<' :: '/' :: (name.toList ++ (blanks ++ ['>'])), by simp, fun next => ?_⟩
  exact ⟨blanks, blank, by simp⟩

/-- A step of the reader is made with another rest as well. -/
theorem Moves.refits {reading following : Reading}
    (moves : Moves kinds outer reading input following rest) :
    Refits (Moves kinds outer reading · following ·) input rest := by
  cases moves with
  | text lexeme => exact lexeme.refits.imp fun _ _ lexeme => .text lexeme
  | numberSign lexeme => exact lexeme.refits.imp fun _ _ lexeme => .numberSign lexeme
  | argument lexeme => exact lexeme.refits.imp fun _ _ lexeme => .argument lexeme
  | openTag lexeme => exact lexeme.refits.imp fun _ _ lexeme => .openTag lexeme
  | openDirective lexeme keyed =>
      obtain ⟨opening, rfl, refit⟩ := lexeme.branching_taken
      obtain ⟨key, rfl, refitKey⟩ := keyed.taken
      refine .of_taken ('{' :: (opening ++ (key ++ ['{']))) (by simp) fun next _ => ?_
      simp only [List.append_assoc, List.cons_append, List.nil_append]
      exact .openDirective (refit _) (refitKey _)
  | nextBranch keyed fresh =>
      obtain ⟨key, rfl, refitKey⟩ := keyed.taken
      refine .of_taken ('}' :: (key ++ ['{'])) (by simp) fun next _ => ?_
      simp only [List.append_assoc, List.cons_append, List.nil_append]
      exact .nextBranch (refitKey _) fresh
  | @closeDirective blanks _ _ _ _ _ _ _ _ blank =>
      refine .of_taken ('}' :: (blanks ++ ['}'])) (by simp) fun next _ => ?_
      simp only [List.append_assoc, List.cons_append, List.nil_append]
      exact .closeDirective blank
  | closeTag closing =>
      obtain ⟨taken, rfl, refit⟩ := closing.taken
      exact .of_taken taken rfl fun next _ => .closeTag (refit next)

end Parlance.Pattern
