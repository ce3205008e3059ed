import Parlance.Format.Error

namespace Parlance.Render

open Parlance.Format

/-! # Outcomes with records

A step of the engine has a result and leaves records of what happened on the way, in order.
Records are kept also when the result is an error.
-/

inductive Level where
  | error
  | warn
  | debug
  | trace
deriving Repr, DecidableEq

inductive Record where
  /-- A message of a number of nodes was compiled. -/
  | compiled (nodes : Nat)
  /-- A pattern was no pattern and is used as plain text. -/
  | verbatim (error : Error) (pattern : String)
  /-- A directive or a tag failed and was left out. -/
  | omitted (path argument kind : String) (error : Error)
  /-- A formatter was registered. -/
  | registered (kind : String) (replaced : Bool)
deriving Repr, DecidableEq

namespace Record

def level : Record → Level
  | compiled _ => .trace
  | verbatim .. => .warn
  | omitted .. => .error
  | registered .. => .debug

def message : Record → String
  | compiled _ => "compiled message"
  | verbatim .. => "failed to parse message, using it verbatim"
  | omitted .. => "failed to format directive"
  | registered .. => "registered formatter"

end Record

structure Outcome (α : Type) where
  result : Except Error α
  records : List Record

namespace Outcome

variable {α β : Type}

def ok (value : α) : Outcome α := ⟨.ok value, []⟩

def error (error : Error) : Outcome α := ⟨.error error, []⟩

def recorded (value : α) (record : Record) : Outcome α := ⟨.ok value, [record]⟩

/-- Goes on with the value. After an error nothing follows. -/
def andThen (first : Outcome α) (next : α → Outcome β) : Outcome β :=
  match first.result with
  | .error error => ⟨.error error, first.records⟩
  | .ok value => ⟨(next value).result, first.records ++ (next value).records⟩

/-- Goes on with the value by a step that needs to know where the value is from. -/
def andThenOf (first : Outcome α) (next : ∀ value, first.result = .ok value → Outcome β) :
    Outcome β :=
  match found : first.result with
  | .error error => ⟨.error error, first.records⟩
  | .ok value => ⟨(next value found).result, first.records ++ (next value found).records⟩

theorem andThenOf_of_error {first : Outcome α} {failure : Error}
    {next : ∀ value, first.result = .ok value → Outcome β} (failed : first.result = .error failure) :
    first.andThenOf next = ⟨.error failure, first.records⟩ := by
  obtain ⟨result, records⟩ := first
  cases failed
  rfl

theorem andThenOf_of_ok {first : Outcome α} {value : α}
    {next : ∀ value, first.result = .ok value → Outcome β} (found : first.result = .ok value) :
    first.andThenOf next =
      ⟨(next value found).result, first.records ++ (next value found).records⟩ := by
  obtain ⟨result, records⟩ := first
  cases found
  rfl

def append (first second : Outcome String) : Outcome String :=
  first.andThen fun text => second.andThen fun more => ok (text ++ more)

theorem append_ok (text more : String) (records later : List Record) :
    append ⟨.ok text, records⟩ ⟨.ok more, later⟩ = ⟨.ok (text ++ more), records ++ later⟩ := by
  simp only [append, andThen, ok, List.append_nil]

theorem append_error (error : Error) (records : List Record) (second : Outcome String) :
    append ⟨.error error, records⟩ second = ⟨.error error, records⟩ :=
  rfl

theorem ok_andThen (value : α) (next : α → Outcome β) : (ok value).andThen next = next value :=
  rfl

theorem andThen_assoc {γ : Type} (first : Outcome α) (second : α → Outcome β)
    (third : β → Outcome γ) :
    (first.andThen second).andThen third =
      first.andThen fun value => (second value).andThen third := by
  obtain ⟨result, records⟩ := first
  cases result with
  | error error => rfl
  | ok value =>
      simp only [andThen]
      cases (second value).result with
      | error error => rfl
      | ok next => simp only [List.append_assoc]

theorem append_assoc (first second third : Outcome String) :
    (first.append second).append third = first.append (second.append third) := by
  simp only [append, andThen_assoc, ok_andThen, String.append_assoc]

theorem ok_empty_append (outcome : Outcome String) : (ok "").append outcome = outcome := by
  obtain ⟨result, records⟩ := outcome
  cases result with
  | error error => rfl
  | ok text =>
      rw [ok, append_ok, String.empty_append]
      rfl

theorem append_ok_empty (outcome : Outcome String) : outcome.append (ok "") = outcome := by
  obtain ⟨result, records⟩ := outcome
  cases result with
  | error error => rfl
  | ok text => rw [ok, append_ok, String.append_empty, List.append_nil]

end Outcome

end Parlance.Render
