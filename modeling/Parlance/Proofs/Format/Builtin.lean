import Parlance.Format.Builtin

namespace Parlance

/-! # How built-in formatters choose

A built-in formatter that goes on with nodes goes on with a branch of its directive. It looks at
the keys only: whatever is done with the nodes of the branches is done with what it goes on with,
and its texts and errors stay the same. Of the arguments it looks at the one that the directive
names.
-/

namespace Keyed

variable {α β : Type}

/-- The entries with a function applied to their values. -/
def mapValues (change : α → β) (entries : List (String × α)) : List (String × β) :=
  entries.map fun entry => (entry.1, change entry.2)

theorem keys_mapValues (change : α → β) (entries : List (String × α)) :
    keys (mapValues change entries) = keys entries := by
  simp only [keys, mapValues, List.map_map]
  rfl

theorem find?_mapValues (change : α → β) (entries : List (String × α)) (key : String) :
    find? (mapValues change entries) key = (find? entries key).map change := by
  induction entries with
  | nil => rfl
  | cons entry rest ih =>
      simp only [mapValues, List.map_cons, find?] at ih ⊢
      split
      · rfl
      · exact ih

theorem mapValues_insert (change : α → β) (entries : List (String × α)) (key : String)
    (value : α) :
    mapValues change (insert entries key value) =
      insert (mapValues change entries) key (change value) := by
  induction entries with
  | nil => rfl
  | cons entry rest ih =>
      simp only [mapValues, List.map_cons, insert] at ih ⊢
      split
      · rfl
      · split
        · rfl
        · rw [List.map_cons, ih]

end Keyed

namespace Format

variable {context : Context} {argument kind key : String} {arguments : Arguments}
  {branches : List (String × List Node)} {nodes : List Node}

section Branches

theorem mem_of_selectBranch (selected : selectBranch argument branches key = .ok nodes) :
    ∃ name, (name, nodes) ∈ branches := by
  unfold selectBranch at selected
  split at selected
  · rename_i branch found
    cases selected
    rcases Option.or_eq_some_iff.mp found with own | ⟨_, other⟩
    · exact ⟨key, Keyed.mem_of_find? own⟩
    · exact ⟨otherKey, Keyed.mem_of_find? other⟩
  · contradiction

theorem mem_of_exactBranch? {number : Number.Floating}
    (exact : exactBranch? branches number = some nodes) : ∃ name, (name, nodes) ∈ branches := by
  obtain ⟨entry, found, rfl⟩ := Option.map_eq_some_iff.mp exact
  exact ⟨entry.1, List.mem_of_find?_eq_some found⟩

theorem mem_of_pluralBranch {pluralKind : Plural.Kind} {directive : Directive}
    (chosen : pluralBranch pluralKind context directive branches arguments = .ok nodes) :
    ∃ name, (name, nodes) ∈ branches := by
  unfold pluralBranch at chosen
  split at chosen
  · contradiction
  · split at chosen
    · rename_i exact
      cases chosen
      exact mem_of_exactBranch? exact
    · exact mem_of_selectBranch chosen

theorem mem_of_textBranch {directive : Directive}
    (chosen : textBranch directive branches arguments = .ok nodes) :
    ∃ name, (name, nodes) ∈ branches := by
  unfold textBranch at chosen
  split at chosen
  · contradiction
  · exact mem_of_selectBranch chosen

end Branches

section Changes

variable (change : List Node → List Node)

theorem selectBranch_mapValues (argument : String) (branches : List (String × List Node))
    (key : String) :
    selectBranch argument (Keyed.mapValues change branches) key =
      (selectBranch argument branches key).map change := by
  simp only [selectBranch, Keyed.find?_mapValues, Keyed.keys_mapValues]
  cases Keyed.find? branches key with
  | some branch => rfl
  | none =>
      cases Keyed.find? branches otherKey with
      | some branch => rfl
      | none => rfl

theorem exactBranch?_mapValues (branches : List (String × List Node))
    (number : Number.Floating) :
    exactBranch? (Keyed.mapValues change branches) number =
      (exactBranch? branches number).map change := by
  simp only [exactBranch?, Keyed.mapValues, List.find?_map, Option.map_map]
  rfl

theorem pluralBranch_mapValues (pluralKind : Plural.Kind) (context : Context)
    {first second : Directive} (same : first.argument = second.argument)
    (branches : List (String × List Node)) (arguments : Arguments) :
    pluralBranch pluralKind context first (Keyed.mapValues change branches) arguments =
      (pluralBranch pluralKind context second branches arguments).map change := by
  simp only [pluralBranch, same, exactBranch?_mapValues, selectBranch_mapValues]
  cases numberOf arguments second.argument with
  | error error => rfl
  | ok number =>
      cases exact : exactBranch? branches number.toFloating with
      | some branch => simp only [exact]; rfl
      | none => simp only [exact]; rfl

theorem textBranch_mapValues {first second : Directive} (same : first.argument = second.argument)
    (branches : List (String × List Node)) (arguments : Arguments) :
    textBranch first (Keyed.mapValues change branches) arguments =
      (textBranch second branches arguments).map change := by
  simp only [textBranch, same, selectBranch_mapValues]
  cases argumentOf arguments second.argument with
  | error error => rfl
  | ok value => rfl

end Changes

/-- What a formatter gives, with a function applied to nodes. -/
def Formatted.mapNodes (change : List Node → List Node) : Formatted → Formatted
  | .text value => .text value
  | .nodes nodes => .nodes (change nodes)

/-- The directive with a function applied to its branches. -/
def Directive.mapBranches (change : List Node → List Node) (directive : Directive) : Directive :=
  match directive.shape with
  | .styled _ => directive
  | .branched branches => { directive with shape := .branched (Keyed.mapValues change branches) }

@[simp] theorem Directive.mapBranches_argument (change : List Node → List Node)
    (directive : Directive) : (directive.mapBranches change).argument = directive.argument := by
  obtain ⟨argument, kind, shape⟩ := directive
  cases shape <;> rfl

@[simp] theorem Directive.mapBranches_kind (change : List Node → List Node)
    (directive : Directive) : (directive.mapBranches change).kind = directive.kind := by
  obtain ⟨argument, kind, shape⟩ := directive
  cases shape <;> rfl

namespace Formatter

inductive IsBuiltin : Formatter → Prop
  | count : IsBuiltin .count
  | number : IsBuiltin .number
  | value : IsBuiltin .value
  | date : IsBuiltin .date
  | plural (kind : Plural.Kind) : IsBuiltin (.plural kind)
  | select : IsBuiltin .select

variable {formatter : Formatter} {style : Option String}

theorem ofText_format_ne_nodes
    (write : Context → Directive → Arguments → Except Error String) (directive : Directive) :
    (ofText write).format context directive arguments ≠ .ok (.nodes nodes) := by
  intro formatted
  obtain ⟨text, _, same⟩ := Pattern.exists_ok_of_map formatted
  cases same

theorem IsBuiltin.styled_ne_nodes (builtin : formatter.IsBuiltin) :
    formatter.format context ⟨argument, kind, .styled style⟩ arguments ≠ .ok (.nodes nodes) := by
  cases builtin with
  | count | number | value | date => exact ofText_format_ne_nodes _ _
  | plural | select => exact fun formatted => nomatch formatted

theorem chosen_of_nodes {isCounting : Bool}
    {choose : Context → Directive → List (String × List Node) → Arguments →
      Except Error (List Node)}
    (formatted : (ofBranches isCounting choose).format context ⟨argument, kind, .branched branches⟩
      arguments = .ok (.nodes nodes)) :
    choose context ⟨argument, kind, .branched branches⟩ branches arguments = .ok nodes := by
  simp only [ofBranches, Directive.branches] at formatted
  obtain ⟨found, chosen, same⟩ := Pattern.exists_ok_of_map formatted
  cases same
  exact chosen

theorem IsBuiltin.mem_of_nodes (builtin : formatter.IsBuiltin)
    (formatted : formatter.format context ⟨argument, kind, .branched branches⟩ arguments =
      .ok (.nodes nodes)) : ∃ name, (name, nodes) ∈ branches := by
  cases builtin with
  | count | number | value | date => exact absurd formatted (ofText_format_ne_nodes _ _)
  | plural pluralKind => exact mem_of_pluralBranch (chosen_of_nodes formatted)
  | select => exact mem_of_textBranch (chosen_of_nodes formatted)

theorem ofText_format_mapNodes (change : List Node → List Node)
    {write : Context → Directive → Arguments → Except Error String} {first second : Directive}
    (same : write context first arguments = write context second arguments) :
    (ofText write).format context first arguments =
      ((ofText write).format context second arguments).map (Formatted.mapNodes change) := by
  simp only [ofText, same]
  cases write context second arguments with
  | error error => rfl
  | ok text => rfl

theorem ofBranches_format_mapNodes {change : List Node → List Node} {isCounting : Bool}
    {choose : Context → Directive → List (String × List Node) → Arguments →
      Except Error (List Node)}
    (same : choose context ⟨argument, kind, .branched (Keyed.mapValues change branches)⟩
        (Keyed.mapValues change branches) arguments =
      (choose context ⟨argument, kind, .branched branches⟩ branches arguments).map change) :
    (ofBranches isCounting choose).format context
        ⟨argument, kind, .branched (Keyed.mapValues change branches)⟩ arguments =
      ((ofBranches isCounting choose).format context ⟨argument, kind, .branched branches⟩
        arguments).map (Formatted.mapNodes change) := by
  simp only [ofBranches, Directive.branches, same]
  cases choose context ⟨argument, kind, .branched branches⟩ branches arguments with
  | error error => rfl
  | ok nodes => rfl

theorem IsBuiltin.format_mapValues (builtin : formatter.IsBuiltin)
    (change : List Node → List Node) :
    formatter.format context ⟨argument, kind, .branched (Keyed.mapValues change branches)⟩
        arguments =
      (formatter.format context ⟨argument, kind, .branched branches⟩ arguments).map
        (Formatted.mapNodes change) := by
  cases builtin with
  | count | number | value | date => exact ofText_format_mapNodes change rfl
  | plural pluralKind =>
      exact ofBranches_format_mapNodes
        (pluralBranch_mapValues change pluralKind context rfl branches arguments)
  | select => exact ofBranches_format_mapNodes (textBranch_mapValues change rfl branches arguments)

end Formatter

section Looks

variable {arguments' : Arguments} {context' : Context} {directive : Directive}

theorem argumentOf_congr {name : String}
    (same : Keyed.find? arguments name = Keyed.find? arguments' name) :
    argumentOf arguments name = argumentOf arguments' name := by
  rw [argumentOf, argumentOf, same]

theorem numberOf_congr {name : String}
    (same : Keyed.find? arguments name = Keyed.find? arguments' name) :
    numberOf arguments name = numberOf arguments' name := by
  rw [numberOf, numberOf, argumentOf_congr same]

theorem pluralKey_congr {pluralKind : Plural.Kind}
    (same : ∀ number, context.category pluralKind number = context'.category pluralKind number)
    (number : Numeric) :
    pluralKey pluralKind context number = pluralKey pluralKind context' number := by
  cases whole : number.integral? with
  | none => simp only [pluralKey, whole]
  | some integer => simp only [pluralKey, whole, same]

/-- A built-in formatter looks at the argument of the directive and at no other. It looks at
categories of numbers only if it chooses by them, and at nothing else of the context. -/
theorem Formatter.IsBuiltin.format_congr {formatter : Formatter} (builtin : formatter.IsBuiltin)
    (named : Keyed.find? arguments directive.argument = Keyed.find? arguments' directive.argument)
    (categories : ∀ pluralKind, formatter = .plural pluralKind →
      ∀ number, context.category pluralKind number = context'.category pluralKind number) :
    formatter.format context directive arguments =
      formatter.format context' directive arguments' := by
  have value := argumentOf_congr named
  have number := numberOf_congr named
  cases builtin with
  | count => simp only [Formatter.count, Formatter.ofText, countText, number]
  | number => simp only [Formatter.number, Formatter.ofText, numberText, number]
  | value => simp only [Formatter.value, Formatter.ofText, valueText, value]
  | date => simp only [Formatter.date, Formatter.ofText, dateText, value]
  | plural pluralKind =>
      have key := pluralKey_congr (categories pluralKind rfl)
      simp only [Formatter.plural, Formatter.ofBranches, pluralBranch, number, key]
  | select => simp only [Formatter.select, Formatter.ofBranches, textBranch, value]

end Looks

theorem Registry.builtin_isBuiltin : ∀ entry ∈ Registry.builtin, entry.2.IsBuiltin := by
  intro entry member
  have listed := Keyed.mem_of_mem_ofList member
  simp only [List.mem_cons, List.not_mem_nil, or_false] at listed
  rcases listed with rfl | rfl | rfl | rfl | rfl | rfl | rfl
  · exact .count
  · exact .number
  · exact .value
  · exact .plural .cardinal
  · exact .select
  · exact .plural .ordinal
  · exact .date

end Format

end Parlance
