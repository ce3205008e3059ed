import Parlance.Format.Builtin

namespace Parlance

/-! # When a date can be written

Every item but an invalid one and one that needs a zone of time can be written for every moment. So
a style is good or bad for all moments alike, and the styles with names are good.
-/

namespace Calendar

variable {items : List Item} {moment : Moment}

/-- Items are written one after another until one cannot be written. -/
theorem mapM_write?_isSome (items : List Item) (moment : Moment) :
    (items.mapM (Item.write? moment)).isSome = items.all Item.isWritable := by
  induction items with
  | nil => rfl
  | cons item items ih =>
      rw [List.mapM_cons, List.all_cons, ← Item.write?_isSome item moment, ← ih]
      cases item.write? moment with
      | none => rfl
      | some text => cases items.mapM (Item.write? moment) <;> rfl

theorem writeStyle?_isSome (style : String) (moment : Moment) :
    (writeStyle? style moment).isSome = (Item.read style.toList).all Item.isWritable := by
  rw [writeStyle?, Option.isSome_map, mapM_write?_isSome]

theorem Item.isWritable_eq_false_iff {item : Item} :
    item.isWritable = false ↔ item = .invalid ∨ item = .offset := by
  cases item <;> simp [isWritable]

theorem all_isWritable_eq_false_iff :
    items.all Item.isWritable = false ↔ Item.invalid ∈ items ∨ Item.offset ∈ items := by
  rw [List.all_eq_false]
  constructor
  · rintro ⟨item, member, unwritable⟩
    rcases Item.isWritable_eq_false_iff.mp (Bool.eq_false_iff.mpr unwritable) with rfl | rfl
    · exact Or.inl member
    · exact Or.inr member
  · rintro (member | member)
    · exact ⟨_, member, by decide⟩
    · exact ⟨_, member, by decide⟩

end Calendar

namespace Format

open Parlance.Calendar

/-- The items that the style of a directive stands for. -/
def Directive.dateItems (directive : Directive) : List Item :=
  Item.read (dateStyle directive.style?).toList

theorem namedDateStyles_isWritable :
    ∀ named ∈ namedDateStyles, (Item.read named.2.toList).all Item.isWritable = true := by
  decide +kernel

/-- No style and the styles with names. -/
def IsNamedDateStyle (style : Option String) : Prop :=
  style = none ∨ ∃ name ∈ Keyed.keys namedDateStyles, style = some name

theorem dateStyle_mem {style : Option String} (named : IsNamedDateStyle style) :
    ∃ row ∈ namedDateStyles, dateStyle style = row.2 := by
  have listed : style.getD "medium" ∈ Keyed.keys namedDateStyles := by
    rcases named with rfl | ⟨name, member, rfl⟩
    · decide
    · exact member
  cases found : Keyed.find? namedDateStyles (style.getD "medium") with
  | none => exact absurd listed (Keyed.find?_eq_none_iff.mp found)
  | some items => exact ⟨_, Keyed.mem_of_find? found, by rw [dateStyle, found, Option.getD_some]⟩

theorem Directive.dateItems_of_named {directive : Directive}
    (named : IsNamedDateStyle directive.style?) :
    directive.dateItems.all Item.isWritable = true := by
  obtain ⟨row, member, same⟩ := dateStyle_mem named
  rw [dateItems, same]
  exact namedDateStyles_isWritable row member

namespace Formatter

variable {directive : Directive} {arguments : Arguments} {moment : Moment}

theorem date_format_eq (given : Keyed.find? arguments directive.argument = some (.moment moment))
    (context : Context) :
    date.format context directive arguments =
      match writeStyle? (dateStyle directive.style?) moment with
      | some text => .ok (.text text)
      | none => .error (.invalidStyle directive.kind (directive.style?.getD "")) := by
  simp only [date, ofText, dateText, argumentOf, given]
  cases writeStyle? (dateStyle directive.style?) moment <;> rfl

theorem date_of_writable
    (given : Keyed.find? arguments directive.argument = some (.moment moment))
    (writable : directive.dateItems.all Item.isWritable = true) (context : Context) :
    ∃ text, date.format context directive arguments = .ok (.text text) := by
  have written := (writeStyle?_isSome (dateStyle directive.style?) moment).trans writable
  obtain ⟨text, found⟩ := Option.isSome_iff_exists.mp written
  exact ⟨text, by rw [date_format_eq given, found]⟩

/-- A style with an item that cannot be written is no named one, so the error has a style to name. -/
theorem date_of_unwritable
    (given : Keyed.find? arguments directive.argument = some (.moment moment))
    (unwritable : directive.dateItems.all Item.isWritable = false) (context : Context) :
    ∃ style, directive.style? = some style ∧
      date.format context directive arguments = .error (.invalidStyle directive.kind style) := by
  have written := (writeStyle?_isSome (dateStyle directive.style?) moment).trans unwritable
  have failed := date_format_eq given context
  rw [Option.isNone_iff_eq_none.mp (Option.isSome_eq_false_iff.mp written)] at failed
  cases styled : directive.style? with
  | none =>
      rw [Directive.dateItems_of_named (Or.inl styled)] at unwritable
      contradiction
  | some style => exact ⟨style, rfl, by rw [failed, styled, Option.getD_some]⟩

/-- Whether a date is written hangs on its style alone: on no moment, no context and no other
argument. It fails just if the style has an invalid item or one that needs a zone of time, with the
kind and the style of the directive in the error. Without a style and with a named one it is
written. -/
theorem date_hangs_on_style {arguments' : Arguments} {moment' : Moment}
    (given : Keyed.find? arguments directive.argument = some (.moment moment))
    (given' : Keyed.find? arguments' directive.argument = some (.moment moment'))
    (context context' : Context) :
    let outcome := date.format context directive arguments
    let outcome' := date.format context' directive arguments'
    ((∃ text, outcome = .ok (.text text)) ↔ ∃ text, outcome' = .ok (.text text)) ∧
      (¬ (∃ text, outcome = .ok (.text text)) → ∃ style, directive.style? = some style ∧
        outcome = .error (.invalidStyle directive.kind style) ∧ outcome' = outcome) ∧
      ((∃ error, outcome = .error error) ↔
        Item.invalid ∈ directive.dateItems ∨ Item.offset ∈ directive.dateItems) ∧
      (IsNamedDateStyle directive.style? → ∃ text, outcome = .ok (.text text)) := by
  intro outcome outcome'
  rw [← all_isWritable_eq_false_iff]
  cases writable : directive.dateItems.all Item.isWritable with
  | true =>
      have written := date_of_writable given writable context
      refine ⟨iff_of_true written (date_of_writable given' writable context'),
        fun failed => absurd written failed, iff_of_false ?_ Bool.noConfusion, fun _ => written⟩
      rintro ⟨error, failed⟩
      obtain ⟨text, done⟩ := written
      cases done.symm.trans failed
  | false =>
      obtain ⟨style, styled, failed⟩ := date_of_unwritable given writable context
      obtain ⟨style', styled', failed'⟩ := date_of_unwritable given' writable context'
      cases styled.symm.trans styled'
      have unwritten {other : Except Error Formatted}
          (refused : other = .error (.invalidStyle directive.kind style)) :
          ¬ ∃ text, other = .ok (.text text) := by
        rintro ⟨text, done⟩
        cases done.symm.trans refused
      refine ⟨iff_of_false (unwritten failed) (unwritten failed'),
        fun _ => ⟨style, styled, failed, failed'.trans failed.symm⟩,
        iff_of_true ⟨_, failed⟩ rfl, fun named => ?_⟩
      rw [Directive.dateItems_of_named named] at writable
      contradiction

/-- A leap second and a day of a year of five digits before the first one. The zone at the end
spoils the style for both, whatever can be written in front of it. -/
theorem date_refuses_zone :
    let directive : Directive := ⟨"d", "due", .styled (some "%Y, %_H:%M:%S%.f %::z")⟩
    let leap : Moment := ⟨⟨2016, 12, 31⟩, ⟨23, 59, 59, 1500000000⟩⟩
    let ancient : Moment := ⟨⟨-12345, 2, 28⟩, Time.midnight⟩
    let context : Context := ⟨"en", none, Plural.knownCategories⟩
    leap.IsValid ∧ ancient.IsValid ∧ Item.invalid ∉ directive.dateItems ∧
      date.format context directive [("d", .moment leap)] =
        .error (.invalidStyle "due" "%Y, %_H:%M:%S%.f %::z") ∧
      date.format context directive [("d", .moment ancient)] =
        date.format context directive [("d", .moment leap)] := by
  intro directive leap ancient context
  have zone : Item.offset ∈ directive.dateItems := by decide +kernel
  have given : Keyed.find? [("d", Value.moment leap)] directive.argument = some (.moment leap) :=
    rfl
  have given' : Keyed.find? [("d", Value.moment ancient)] directive.argument =
      some (.moment ancient) := rfl
  obtain ⟨_, refused, fails, _⟩ := date_hangs_on_style given given' context context
  obtain ⟨error, failed⟩ := fails.mpr (Or.inr zone)
  have unwritten : ¬ ∃ text, date.format context directive [("d", .moment leap)] =
      .ok (.text text) := by
    rintro ⟨text, done⟩
    cases done.symm.trans failed
  obtain ⟨style, styled, named, same⟩ := refused unwritten
  cases styled
  exact ⟨by decide, by decide, by decide +kernel, named, same⟩

end Formatter

end Format

end Parlance
