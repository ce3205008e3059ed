import Parlance.Text.Order

namespace Parlance

open Parlance.Text

/-! # Entries in key order

Branches of a directive, attributes of a tag and arguments of a message are lists of
entries. Each key occurs once, and the keys stand in the order of their code points.
-/

namespace Keyed

variable {α : Type}

def keys (entries : List (String × α)) : List String :=
  entries.map Prod.fst

def find? (entries : List (String × α)) (key : String) : Option α :=
  match entries with
  | [] => none
  | (found, value) :: rest => if found = key then some value else find? rest key

def contains (entries : List (String × α)) (key : String) : Bool :=
  (find? entries key).isSome

/-- Puts the entry at its place, and in place of an earlier entry of the same key. -/
def insert (entries : List (String × α)) (key : String) (value : α) : List (String × α) :=
  match entries with
  | [] => [(key, value)]
  | (found, old) :: rest =>
    if key = found then (key, value) :: rest
    else if isBefore key found then (key, value) :: (found, old) :: rest
    else (found, old) :: insert rest key value

/-- Puts entries at their places, one after the other. -/
def insertAll (entries pairs : List (String × α)) : List (String × α) :=
  pairs.foldl (fun entries pair => insert entries pair.1 pair.2) entries

/-- The entries in key order. Of two entries with one key, the later stays. -/
def ofList (pairs : List (String × α)) : List (String × α) :=
  insertAll [] pairs

/-- Every key comes before all keys after it. -/
def Sorted (entries : List (String × α)) : Prop :=
  entries.Pairwise fun first second => isBefore first.1 second.1 = true

instance (entries : List (String × α)) : Decidable (Sorted entries) :=
  inferInstanceAs (Decidable (entries.Pairwise _))

theorem mem_of_find? {entries : List (String × α)} {key : String} {value : α}
    (found : find? entries key = some value) : (key, value) ∈ entries := by
  induction entries with
  | nil => contradiction
  | cons head rest ih =>
      obtain ⟨name, first⟩ := head
      simp only [find?] at found
      split at found
      · rename_i same
        cases found
        exact same ▸ List.mem_cons_self
      · exact List.mem_cons_of_mem _ (ih found)

theorem find?_insert (entries : List (String × α)) (key other : String) (value : α) :
    find? (insert entries key value) other =
      if key = other then some value else find? entries other := by
  induction entries with
  | nil => simp [insert, find?]
  | cons head rest ih =>
      obtain ⟨found, old⟩ := head
      simp only [insert]
      split
      · subst found
        simp only [find?]
        split <;> rfl
      · split
        · simp only [find?]
        · simp only [find?, ih]
          by_cases here : found = other
          · subst other
            simp [*]
          · simp [here]

theorem mem_insert {entries : List (String × α)} {key : String} {value : α}
    {entry : String × α} (member : entry ∈ insert entries key value) :
    entry = (key, value) ∨ entry ∈ entries := by
  induction entries with
  | nil => simpa [insert] using member
  | cons head rest ih =>
      obtain ⟨found, old⟩ := head
      simp only [insert] at member
      split at member
      · rcases List.mem_cons.mp member with here | later
        · exact Or.inl here
        · exact Or.inr (List.mem_cons_of_mem _ later)
      · split at member
        · exact List.mem_cons.mp member
        · rcases List.mem_cons.mp member with here | later
          · exact Or.inr (here ▸ List.mem_cons_self)
          · exact (ih later).imp id (List.mem_cons_of_mem _)

theorem mem_of_mem_insertAll {entries pairs : List (String × α)} {entry : String × α}
    (member : entry ∈ insertAll entries pairs) : entry ∈ entries ∨ entry ∈ pairs := by
  induction pairs generalizing entries with
  | nil => exact Or.inl member
  | cons pair rest ih =>
      rcases ih member with inserted | later
      · rcases mem_insert inserted with same | earlier
        · exact Or.inr (same ▸ List.mem_cons_self)
        · exact Or.inl earlier
      · exact Or.inr (List.mem_cons_of_mem _ later)

theorem mem_of_mem_ofList {pairs : List (String × α)} {entry : String × α}
    (member : entry ∈ ofList pairs) : entry ∈ pairs :=
  (mem_of_mem_insertAll member).resolve_left List.not_mem_nil

theorem sorted_insert {entries : List (String × α)} (sorted : Sorted entries)
    (key : String) (value : α) : Sorted (insert entries key value) := by
  induction entries with
  | nil => exact List.pairwise_singleton _ _
  | cons head rest ih =>
      obtain ⟨found, old⟩ := head
      obtain ⟨least, restSorted⟩ := List.pairwise_cons.mp sorted
      simp only [insert]
      split
      · rename_i same
        subst same
        exact List.pairwise_cons.mpr ⟨least, restSorted⟩
      · rename_i different
        split
        · rename_i before
          refine List.pairwise_cons.mpr ⟨?_, sorted⟩
          intro entry member
          rcases List.mem_cons.mp member with rfl | later
          · exact before
          · exact isBefore_trans before (least entry later)
        · rename_i notBefore
          refine List.pairwise_cons.mpr ⟨?_, ih restSorted⟩
          intro entry member
          rcases mem_insert member with rfl | present
          · cases after : isBefore found key with
            | true => rfl
            | false =>
                exact absurd (isBefore_connected (Bool.eq_false_iff.mpr notBefore) after)
                  different
          · exact least entry present

theorem sorted_insertAll {entries : List (String × α)} (sorted : Sorted entries)
    (pairs : List (String × α)) : Sorted (insertAll entries pairs) := by
  induction pairs generalizing entries with
  | nil => exact sorted
  | cons pair rest ih => exact ih (sorted_insert sorted pair.1 pair.2)

theorem sorted_ofList (pairs : List (String × α)) : Sorted (ofList pairs) :=
  sorted_insertAll List.Pairwise.nil pairs

theorem insert_ne_nil (entries : List (String × α)) (key : String) (value : α) :
    insert entries key value ≠ [] := by
  fun_cases insert entries key value <;> exact List.cons_ne_nil _ _

theorem mem_keys_insert {entries : List (String × α)} {key name : String} {value : α} :
    name ∈ keys (insert entries key value) ↔ name = key ∨ name ∈ keys entries := by
  induction entries with
  | nil => simp [insert, keys]
  | cons head rest ih =>
      obtain ⟨found, old⟩ := head
      simp only [insert]
      split
      · rename_i same
        subst same
        simp [keys]
      · split
        · simp [keys]
        · simp only [keys, List.map_cons, List.mem_cons] at ih ⊢
          rw [ih]
          exact or_left_comm

theorem mem_keys_insertAll {entries pairs : List (String × α)} {name : String} :
    name ∈ keys (insertAll entries pairs) ↔ name ∈ keys entries ∨ name ∈ keys pairs := by
  induction pairs generalizing entries with
  | nil => simp [insertAll, keys]
  | cons pair rest ih =>
      have later := @ih (insert entries pair.1 pair.2)
      rw [mem_keys_insert] at later
      simp only [keys, List.map_cons, List.mem_cons] at later ⊢
      rw [or_left_comm, ← or_assoc]
      exact later

theorem insert_of_last {entries : List (String × α)} {key : String} (value : α)
    (last : ∀ entry ∈ entries, isBefore entry.1 key = true) :
    insert entries key value = entries ++ [(key, value)] := by
  induction entries with
  | nil => rfl
  | cons head rest ih =>
      obtain ⟨found, old⟩ := head
      have before : isBefore found key = true := last (found, old) List.mem_cons_self
      have different : key ≠ found := by
        rintro rfl
        rw [isBefore_irrefl] at before
        contradiction
      have notBefore : ¬ isBefore key found = true := Bool.eq_false_iff.mp (isBefore_asymm before)
      have later := ih fun entry member => last entry (List.mem_cons_of_mem _ member)
      simp only [insert, if_neg different, if_neg notBefore, later, List.cons_append]

theorem insertAll_of_sorted {entries pairs : List (String × α)}
    (sorted : Sorted (entries ++ pairs)) : insertAll entries pairs = entries ++ pairs := by
  induction pairs generalizing entries with
  | nil => exact (List.append_nil entries).symm
  | cons pair rest ih =>
      have last : ∀ entry ∈ entries, isBefore entry.1 pair.1 = true :=
        fun entry member => (List.pairwise_append.mp sorted).2.2 entry member pair List.mem_cons_self
      have inserted := insert_of_last pair.2 last
      have moved : entries ++ pair :: rest = (entries ++ [pair]) ++ rest := by simp
      rw [moved] at sorted
      rw [moved, ← ih sorted, insertAll, List.foldl_cons, inserted]
      rfl

/-- Entries that are in order already stay as they are. -/
theorem ofList_of_sorted {entries : List (String × α)} (sorted : Sorted entries) :
    ofList entries = entries :=
  insertAll_of_sorted sorted

theorem nodup_keys_of_sorted {entries : List (String × α)} (sorted : Sorted entries) :
    (keys entries).Nodup := by
  refine List.pairwise_map.mpr (sorted.imp ?_)
  intro first second before same
  rw [same, isBefore_irrefl] at before
  contradiction

section LookUp

variable {entries : List (String × α)} {key : String} {value : α}

theorem find?_eq_none_iff : find? entries key = none ↔ key ∉ keys entries := by
  induction entries with
  | nil => simp [find?, keys]
  | cons head rest ih =>
      obtain ⟨name, first⟩ := head
      simp only [find?, keys, List.map_cons, List.mem_cons, not_or] at ih ⊢
      by_cases same : name = key
      · simp [same]
      · rw [if_neg same, ih]
        exact (and_iff_right (Ne.symm same)).symm

theorem find?_eq_some_iff (sorted : Sorted entries) :
    find? entries key = some value ↔ (key, value) ∈ entries := by
  refine ⟨mem_of_find?, fun member => ?_⟩
  induction entries with
  | nil => cases member
  | cons head rest ih =>
      obtain ⟨least, restSorted⟩ := List.pairwise_cons.mp sorted
      rcases List.mem_cons.mp member with rfl | later
      · simp only [find?, if_true]
      · have different : head.1 ≠ key := by
          intro same
          have before := least (key, value) later
          rw [same, isBefore_irrefl] at before
          contradiction
        simp only [find?, if_neg different]
        exact ih restSorted later

theorem eq_of_mem_of_key_eq (sorted : Sorted entries) {first second : String × α}
    (member : first ∈ entries) (member' : second ∈ entries) (same : first.1 = second.1) :
    first = second := by
  have found := (find?_eq_some_iff sorted).mpr member
  have found' := (find?_eq_some_iff sorted).mpr member'
  rw [same, found'] at found
  exact Prod.ext same (Option.some.inj found).symm

/-- In key order the first entry that meets a test is the least one that meets it. -/
theorem find?_least_iff (sorted : Sorted entries) (test : String × α → Bool)
    (entry : String × α) :
    entries.find? test = some entry ↔ entry ∈ entries ∧ test entry = true ∧
      ∀ other ∈ entries, test other = true →
        other = entry ∨ isBefore entry.1 other.1 = true := by
  induction entries with
  | nil => simp
  | cons head rest ih =>
      obtain ⟨least, restSorted⟩ := List.pairwise_cons.mp sorted
      cases passes : test head with
      | true =>
          rw [List.find?_cons_of_pos passes, Option.some_inj]
          constructor
          · rintro rfl
            refine ⟨List.mem_cons_self, passes, fun other member _ => ?_⟩
            exact (List.mem_cons.mp member).imp_right (least other)
          · rintro ⟨member, _, first⟩
            rcases first head List.mem_cons_self passes with same | before
            · exact same
            rcases List.mem_cons.mp member with same | later
            · exact same.symm
            · rw [isBefore_asymm (least entry later)] at before
              contradiction
      | false =>
          rw [List.find?_cons_of_neg (Bool.eq_false_iff.mp passes), ih restSorted]
          constructor
          · rintro ⟨member, passed, first⟩
            refine ⟨List.mem_cons_of_mem _ member, passed, fun other inside otherPasses => ?_⟩
            rcases List.mem_cons.mp inside with rfl | later
            · rw [passes] at otherPasses
              contradiction
            · exact first other later otherPasses
          · rintro ⟨member, passed, first⟩
            refine ⟨?_, passed, fun other inside => first other (List.mem_cons_of_mem _ inside)⟩
            rcases List.mem_cons.mp member with rfl | later
            · rw [passes] at passed
              contradiction
            · exact later

theorem find?_insertAll_of_ne {pairs : List (String × α)}
    (other : ∀ name ∈ keys pairs, name ≠ key) :
    find? (insertAll entries pairs) key = find? entries key := by
  induction pairs generalizing entries with
  | nil => rfl
  | cons pair rest ih =>
      have here : pair.1 ≠ key := other pair.1 List.mem_cons_self
      have inserted : find? (insert entries pair.1 pair.2) key = find? entries key := by
        rw [find?_insert, if_neg here]
      rw [← inserted]
      exact ih fun name member => other name (List.mem_cons_of_mem _ member)

end LookUp

end Keyed

end Parlance
