import Parlance.Format.Builtin
import Parlance.Proofs.Number.Spelled
import Parlance.Proofs.Pattern.Runs

namespace Parlance

open Parlance.Number Parlance.Pattern Parlance.Text

/-! # Texts that count as numbers

A text that has a numeral of a whole number between blanks is read as that number. The formatters
that count look at the number and not at the value, so they cannot tell such a text from the number.
-/

section Reading

variable {value : Int} {text before after : List Char}

theorem isBlank_of_isDigit {c : Char} (digit : c.isDigit = true) : isBlank c = false := by
  cases blank : isBlank c with
  | false => rfl
  | true =>
      have noDigit : c.isDigit = false := not_of_isBlank (by decide +kernel) blank
      rw [digit] at noDigit
      contradiction

theorem trimmed_of_numeral (numeral : NumeralFor value text) : Trimmed text := by
  obtain @⟨sign, signed, zeros⟩ := numeral
  apply trimmed_of_forall
  · exact List.append_ne_nil_of_right_ne_nil _
      (List.append_ne_nil_of_right_ne_nil _ Nat.toDigits_ne_nil)
  · intro c member
    rcases List.mem_append.mp member with inSign | inDigits
    · cases signed with
      | minus | plus =>
          cases List.mem_singleton.mp inSign
          rfl
      | none => cases inSign
    · exact isBlank_of_isDigit (isDigit_of_mem_zeros inDigits)

theorem Value.numeric?_of_numeral (inRange : InRange value) (numeral : NumeralFor value text)
    (blankBefore : AllBlank before) (blankAfter : AllBlank after) :
    (Value.text (String.ofList (before ++ (text ++ after)))).numeric? = some (.integer value) := by
  rw [numeric?, String.toList_ofList,
    trimList_append blankBefore (trimmed_of_numeral numeral) blankAfter, numericOfText?,
    numeral.readInteger? inRange]

end Reading

namespace Format

/-- The formatters that go by the number of their argument. -/
inductive Formatter.Counts : Formatter → Prop
  | count : Counts .count
  | number : Counts .number
  | plural (kind : Plural.Kind) : Counts (.plural kind)

/-- A formatter that counts sees its argument only as a number. -/
theorem Formatter.Counts.format_congr {formatter : Formatter} (counts : formatter.Counts)
    {directive : Directive} {arguments arguments' : Arguments}
    (same : numberOf arguments directive.argument = numberOf arguments' directive.argument)
    (context : Context) :
    formatter.format context directive arguments =
      formatter.format context directive arguments' := by
  cases counts with
  | count => simp only [Formatter.count, Formatter.ofText, countText, same]
  | number => simp only [Formatter.number, Formatter.ofText, numberText, same]
  | plural kind => simp only [Formatter.plural, Formatter.ofBranches, pluralBranch, same]

theorem numberOf_insert {first second : Value} {number : Numeric}
    (reads : first.numeric? = some number) (reads' : second.numeric? = some number)
    (arguments : Arguments) (name argument : String) :
    numberOf (Keyed.insert arguments name first) argument =
      numberOf (Keyed.insert arguments name second) argument := by
  by_cases named : name = argument
  · simp only [numberOf, argumentOf, Keyed.find?_insert, if_pos named, reads, reads']
  · simp only [numberOf, argumentOf, Keyed.find?_insert, if_neg named]

/-- A text with a numeral between blanks and the whole number that it stands for are the same to
all formatters that count. -/
theorem numeral_counts_as_number {value : Int} (inRange : InRange value) {text : List Char}
    (numeral : NumeralFor value text) {before after : List Char} (blankBefore : AllBlank before)
    (blankAfter : AllBlank after) :
    let spelled := Value.text (String.ofList (before ++ (text ++ after)))
    spelled.numeric? = some (.integer value) ∧
      ∀ formatter : Formatter, formatter.Counts → ∀ context directive arguments name,
        formatter.format context directive (Keyed.insert arguments name spelled) =
          formatter.format context directive (Keyed.insert arguments name (.integer value)) := by
  intro spelled
  have reads : spelled.numeric? = some (.integer value) :=
    Value.numeric?_of_numeral inRange numeral blankBefore blankAfter
  refine ⟨reads, fun formatter counts context directive arguments name => ?_⟩
  exact counts.format_congr (numberOf_insert reads rfl arguments name directive.argument) context

/-- The least whole number is read from a text with zeros in front of its digits. -/
theorem least_integer_counts_as_number :
    let text := "-0009223372036854775808".toList
    let spelled := Value.text "\u3000-0009223372036854775808\n "
    InRange leastInteger ∧ NumeralFor leastInteger text ∧ AllBlank ['\u3000'] ∧
      AllBlank ['\n', ' '] ∧ spelled.numeric? = some (.integer leastInteger) ∧
      (Formatter.plural .ordinal).format ⟨"en", none, Plural.knownCategories⟩
          ⟨"n", "selectordinal", .branched [("=-9223372036854775808", [])]⟩ [("n", spelled)] =
        (Formatter.plural .ordinal).format ⟨"en", none, Plural.knownCategories⟩
          ⟨"n", "selectordinal", .branched [("=-9223372036854775808", [])]⟩
          [("n", .integer leastInteger)] := by
  intro text spelled
  have inRange : InRange leastInteger := by decide
  have written : text = ['-'] ++ (List.replicate 3 '0' ++ Nat.toDigits 10 leastInteger.natAbs) := by
    decide +kernel
  have numeral : NumeralFor leastInteger text := written ▸ .intro (.minus (by decide)) 3
  have blankBefore : AllBlank ['\u3000'] := by decide +kernel
  have blankAfter : AllBlank ['\n', ' '] := by decide +kernel
  have same : spelled = .text (String.ofList (['\u3000'] ++ (text ++ ['\n', ' ']))) := by
    decide +kernel
  obtain ⟨reads, alike⟩ := numeral_counts_as_number inRange numeral blankBefore blankAfter
  rw [← same] at reads alike
  exact ⟨inRange, numeral, blankBefore, blankAfter, reads, alike _ (.plural .ordinal) _ _ [] "n"⟩

end Format

end Parlance
