import Parlance.Proofs.Pattern.Grammar

namespace Parlance.Pattern

open Parlance.Text

/-! # Attributes and their grammar

The reader of attributes takes what the grammar allows, and it takes all of it where the tag
ends behind them. A value that begins with a quote is quoted whenever the quote occurs again.
-/

theorem readQuoted?_append {quote : Char} {value rest : List Char} (inside : quote ∉ value) :
    readQuoted? quote (value ++ quote :: rest) = some (String.ofList value, rest) := by
  have all : ∀ c ∈ value, (c != quote) = true := by
    intro c member
    simp only [bne_iff_ne]
    rintro rfl
    exact inside member
  have stops : Stops (· != quote) (quote :: rest) := stops_cons (by simp)
  simp only [readQuoted?, takeWhile_append_of_stops all stops, dropWhile_append_of_stops all stops]

theorem readQuoted?_eq_none {quote : Char} {input : List Char} (missing : quote ∉ input) :
    readQuoted? quote input = none := by
  have all : ∀ c ∈ input, (c != quote) = true := by
    intro c member
    simp only [bne_iff_ne]
    rintro rfl
    exact missing member
  have dropped : (input ++ []).dropWhile (· != quote) = [] :=
    dropWhile_append_of_stops all (by simp [Stops])
  rw [List.append_nil] at dropped
  simp only [readQuoted?, dropped]

theorem readQuoted?_eq_some {quote : Char} {input rest : List Char} {text : String}
    (found : readQuoted? quote input = some (text, rest)) :
    ∃ value, quote ∉ value ∧ input = value ++ quote :: rest ∧ text = String.ofList value := by
  simp only [readQuoted?] at found
  split at found
  · rename_i c tail dropped
    cases found
    have same : c = quote := by
      have outside := stops_dropWhile (· != quote) input
      rw [dropped] at outside
      simpa using outside c rfl
    refine ⟨input.takeWhile (· != quote), ?_, ?_, rfl⟩
    · intro member
      have differs := List.all_eq_true.mp (List.all_takeWhile (l := input)) quote member
      simp at differs
    · rw [← same, ← dropped, same, List.takeWhile_append_dropWhile]
  · contradiction

theorem not_mem_of_readQuoted?_eq_none {quote : Char} {input : List Char}
    (missing : readQuoted? quote input = none) : quote ∉ input := by
  intro member
  obtain ⟨before, after, rfl, inside⟩ := List.eq_append_cons_of_mem member
  rw [readQuoted?_append inside] at missing
  contradiction

theorem readQuotedValue?_cons (c : Char) (rest : List Char) :
    readQuotedValue? (c :: rest) = if isQuote c then readQuoted? c rest else none := by
  by_cases double : c = '"'
  · subst double
    rfl
  by_cases single : c = '\''
  · subst single
    rfl
  have unquoted : isQuote c = false := by simp [isQuote, double, single]
  simp only [unquoted, Bool.false_eq_true, if_false]
  unfold readQuotedValue?
  split
  · rename_i same
    cases same
    contradiction
  · rename_i same
    cases same
    contradiction
  · rfl

theorem readValue_of_attributeValue {input rest : List Char} {text : String}
    (value : AttributeValue input text rest) (stops : Stops isUnquotedChar rest) :
    readValue input = .ok (text, rest) := by
  cases value with
  | quoted isQuote inside =>
      simp only [readValue, readQuotedValue?_cons, isQuote, if_true, readQuoted?_append inside]
  | unquoted run unclosed =>
      rename_i value
      have unquoted : readQuotedValue? (value ++ rest) = none := by
        obtain ⟨first, more, rfl, _⟩ := run.exists_cons
        rw [List.cons_append, readQuotedValue?_cons]
        split
        · rename_i quote
          exact readQuoted?_eq_none (unclosed first more rfl quote)
        · rfl
      simp only [readValue, unquoted, readRun?_append run stops]

theorem attributeValue_of_readValue {input rest : List Char} {text : String}
    (found : readValue input = .ok (text, rest)) : AttributeValue input text rest := by
  simp only [readValue] at found
  split at found
  · rename_i quoted
    cases found
    cases input with
    | nil => cases quoted
    | cons first more =>
        rw [readQuotedValue?_cons] at quoted
        split at quoted
        · rename_i quote
          obtain ⟨value, inside, rfl, rfl⟩ := readQuoted?_eq_some quoted
          exact .quoted quote inside
        · contradiction
  · rename_i unquoted
    split at found
    · rename_i read
      cases found
      obtain ⟨value, run, _, rfl, rfl⟩ := readRun?_eq_some read
      refine .unquoted run ?_
      rintro quote more rfl isQuote
      rw [List.cons_append, readQuotedValue?_cons, if_pos isQuote] at unquoted
      exact not_mem_of_readQuoted?_eq_none unquoted
    · contradiction

theorem attributeValue_of_readAttributeValue {input rest : List Char} {value : Option String}
    (found : readAttributeValue input = .ok (value, rest)) :
    value = none ∧ rest = input ∨ ∃ left right behind text, AllBlank left ∧ AllBlank right ∧
      input = left ++ '=' :: (right ++ behind) ∧ value = some text ∧
      AttributeValue behind text rest := by
  simp only [readAttributeValue] at found
  split at found
  · rename_i after skipped
    obtain ⟨⟨text, behind⟩, read, same⟩ := exists_ok_of_map found
    cases same
    obtain ⟨left, blankLeft, split, _⟩ := exists_skipBlank input
    obtain ⟨right, blankRight, splitAfter, _⟩ := exists_skipBlank after
    rw [skipped] at split
    exact Or.inr ⟨left, right, skipBlank after, text, blankLeft, blankRight,
      splitAfter ▸ split, rfl, attributeValue_of_readValue read⟩
  · cases found
    exact Or.inl ⟨rfl, rfl⟩

theorem Attributes.append {input behind rest : List Char}
    {entries more : List (String × Option String)} (attributes : Attributes input entries behind)
    (later : Attributes behind more rest) : Attributes input (entries ++ more) rest := by
  induction attributes with
  | nil => exact later
  | bare blanks name _ ih => exact .bare blanks name (ih later)
  | valued blanks name blankBefore blankAfter value _ ih =>
      exact .valued blanks name blankBefore blankAfter value (ih later)

theorem attributes_of_readAttribute? {input rest : List Char} {entry : String × Option String}
    (found : readAttribute? input = .ok (some (entry, rest))) : Attributes input [entry] rest := by
  simp only [readAttribute?] at found
  split at found
  · cases found
  rename_i named spaced
  split at found
  · cases found
  rename_i after run
  obtain ⟨result, valued, same⟩ := exists_ok_of_map found
  cases same
  obtain ⟨before, blanks, _, rfl, _⟩ := readRun?_eq_some spaced
  obtain ⟨written, name, _, rfl, rfl⟩ := readRun?_eq_some run
  rcases attributeValue_of_readAttributeValue valued with
    ⟨none, rfl⟩ | ⟨left, right, input, text, blankLeft, blankRight, rfl, some, value⟩
  · rw [none]
    exact .bare blanks name .nil
  · rw [some]
    exact .valued blanks name blankLeft blankRight value .nil

theorem attributes_of_readAttributes {input rest : List Char}
    {entries : List (String × Option String)}
    (found : readAttributes input = .ok (entries, rest)) : Attributes input entries rest := by
  fun_induction readAttributes input generalizing entries rest with
  | case1 => contradiction
  | case2 =>
      cases found
      exact .nil
  | case3 => contradiction
  | case4 input entry behind read later after last ih =>
      cases found
      exact (attributes_of_readAttribute? read).append (ih last)

theorem readAttributes_of_none {input : List Char} (none : readAttribute? input = .ok none) :
    readAttributes input = .ok ([], input) := by
  rw [readAttributes]
  split <;> simp_all

theorem readAttributes_of_some {input behind rest : List Char} {entry : String × Option String}
    {entries : List (String × Option String)}
    (first : readAttribute? input = .ok (some (entry, behind)))
    (more : readAttributes behind = .ok (entries, rest)) :
    readAttributes input = .ok (entry :: entries, rest) := by
  rw [readAttributes]
  split <;> simp_all

/-- Blanks and the closing bracket, which end an opening tag. -/
def EndsTag (rest : List Char) : Prop :=
  ∃ blanks tail, AllBlank blanks ∧ rest = blanks ++ '>' :: tail

theorem EndsTag.skipBlank {rest : List Char} (ends : EndsTag rest) :
    ∃ tail, skipBlank rest = '>' :: tail := by
  obtain ⟨blanks, tail, blank, rfl⟩ := ends
  exact ⟨tail, skipBlank_append blank (stops_cons (by decide))⟩

theorem head_blank_or_end {blanks behind : List Char} (blank : AllBlank blanks) (c : Char)
    (head : c ∈ (blanks ++ '>' :: behind).head?) : isBlank c = true ∨ c = '>' := by
  cases blanks with
  | nil =>
      cases head
      exact Or.inr rfl
  | cons first more =>
      cases head
      exact Or.inl (blank c List.mem_cons_self)

/-- Behind the name of a tag and behind an attribute there is a blank or the end of the tag. -/
theorem Attributes.head {input rest : List Char} {entries : List (String × Option String)}
    (attributes : Attributes input entries rest) (ends : EndsTag rest) :
    ∀ c ∈ input.head?, isBlank c = true ∨ c = '>' := by
  cases attributes with
  | nil =>
      obtain ⟨blanks, tail, blank, rfl⟩ := ends
      exact head_blank_or_end blank
  | bare blanks => exact fun c head => Or.inl (blanks.head c head)
  | valued blanks => exact fun c head => Or.inl (blanks.head c head)

theorem Attributes.stops {isMember : Char → Bool} {input rest : List Char}
    {entries : List (String × Option String)} (attributes : Attributes input entries rest)
    (ends : EndsTag rest) (blanks : ∀ {c : Char}, isBlank c = true → isMember c = false)
    (bracket : isMember '>' = false) : Stops isMember input := by
  intro c head
  rcases attributes.head ends c head with blank | rfl
  · exact blanks blank
  · exact bracket

theorem skipBlank_name_ne_equals {before written after : List Char} (blanks : IsRun isBlank before)
    (name : IsRun isTagChar written) (more : List Char) :
    skipBlank (before ++ (written ++ after)) ≠ '=' :: more := by
  rw [skipBlank_append blanks.2 (name.stops_isBlank not_isTagChar_of_isBlank)]
  intro same
  have member := name.head '=' (congrArg List.head? same)
  exact absurd member (by decide +kernel)

theorem Attributes.skipBlank_ne_equals {input rest : List Char}
    {entries : List (String × Option String)} (attributes : Attributes input entries rest)
    (ends : EndsTag rest) (more : List Char) : skipBlank input ≠ '=' :: more := by
  cases attributes with
  | nil =>
      obtain ⟨tail, skipped⟩ := ends.skipBlank
      simp [skipped]
  | bare blanks name => exact skipBlank_name_ne_equals blanks name more
  | valued blanks name => exact skipBlank_name_ne_equals blanks name more

theorem readAttribute?_of_name {before written behind after : List Char} {value : Option String}
    (blanks : IsRun isBlank before) (name : IsRun isTagChar written)
    (stops : Stops isTagChar behind) (read : readAttributeValue behind = .ok (value, after)) :
    readAttribute? (before ++ (written ++ behind)) =
      .ok (some ((String.ofList written, value), after)) := by
  simp only [readAttribute?, readRun?_append name stops, read,
    readRun?_append blanks (name.stops_isBlank not_isTagChar_of_isBlank)]
  rfl

theorem AttributeValue.stops_isBlank {input rest : List Char} {text : String}
    (value : AttributeValue input text rest) : Stops isBlank input := by
  cases value with
  | @quoted quote value _ quotes _ =>
      apply stops_cons
      simp only [isQuote, List.mem_cons, List.not_mem_nil, or_false, decide_eq_true_eq] at quotes
      rcases quotes with rfl | rfl <;> decide
  | @unquoted value _ run _ =>
      obtain ⟨first, more, rfl, member⟩ := run.exists_cons
      simp only [isUnquotedChar, Bool.and_eq_true, Bool.not_eq_true'] at member
      exact stops_cons member.1

/-- The reader finds the attributes that the grammar finds. -/
theorem Attributes.read {input rest : List Char} {entries : List (String × Option String)}
    (attributes : Attributes input entries rest) (ends : EndsTag rest) :
    readAttributes input = .ok (entries, rest) := by
  induction attributes with
  | nil =>
      apply readAttributes_of_none
      obtain ⟨blanks, tail, blank, rfl⟩ := ends
      have noName : readRun? isTagChar ('>' :: tail) = none :=
        readRun?_eq_none (stops_cons (by decide +kernel))
      have noBlank : Stops isBlank ('>' :: tail) := stops_cons (by decide)
      cases blanks with
      | nil => simp only [readAttribute?, List.nil_append, readRun?_eq_none noBlank]
      | cons first more =>
          have run : IsRun isBlank (first :: more) := ⟨by simp, blank⟩
          simp only [readAttribute?, readRun?_append run noBlank, noName]
  | bare blanks name more ih =>
      apply readAttributes_of_some _ (ih ends)
      apply readAttribute?_of_name blanks name
        (more.stops ends not_isTagChar_of_isBlank (by decide +kernel))
      unfold readAttributeValue
      split
      · rename_i equals
        exact absurd equals (more.skipBlank_ne_equals ends _)
      · rfl
  | valued blanks name blankBefore blankAfter value more ih =>
      rename_i before written left right input text behind entries rest
      apply readAttributes_of_some _ (ih ends)
      have stopsValue : Stops isUnquotedChar behind :=
        more.stops ends (fun blank => by simp [isUnquotedChar, blank]) (by decide)
      have skipped : skipBlank (left ++ '=' :: (right ++ input)) = '=' :: (right ++ input) :=
        skipBlank_append blankBefore (stops_cons (by decide))
      apply readAttribute?_of_name blanks name
      · exact blankBefore.stops (stops_cons (by decide +kernel)) not_isTagChar_of_isBlank
      · simp only [readAttributeValue, skipped, skipBlank_append blankAfter value.stops_isBlank,
          readValue_of_attributeValue value stopsValue]
        rfl

end Parlance.Pattern
