namespace Parlance.Text

/-! # The order of texts

Texts are ordered by the code points of their characters, from the first character on. A
text comes after its own beginnings.
-/

def isListBefore : List Char → List Char → Bool
  | [], [] => false
  | [], _ :: _ => true
  | _ :: _, [] => false
  | a :: first, b :: second =>
    if a = b then isListBefore first second else decide (a.toNat < b.toNat)

def isBefore (first second : String) : Bool :=
  isListBefore first.toList second.toList

def isAtMost (first second : String) : Bool :=
  !isBefore second first

theorem isListBefore_irrefl (text : List Char) : isListBefore text text = false := by
  induction text with
  | nil => rfl
  | cons c rest ih => simp only [isListBefore, if_true, ih]

theorem isListBefore_trans {first second third : List Char}
    (before : isListBefore first second = true) (later : isListBefore second third = true) :
    isListBefore first third = true := by
  induction first generalizing second third with
  | nil =>
      cases second with
      | nil => contradiction
      | cons b second =>
          cases third with
          | nil => contradiction
          | cons c third => rfl
  | cons a first ih =>
      cases second with
      | nil => contradiction
      | cons b second =>
          cases third with
          | nil => contradiction
          | cons c third =>
              simp only [isListBefore] at before later ⊢
              by_cases same : a = b
              · subst b
                rw [if_pos rfl] at before
                by_cases next : a = c
                · rw [if_pos next] at later ⊢
                  exact ih before later
                · rw [if_neg next] at later ⊢
                  exact later
              · rw [if_neg same] at before
                have less := of_decide_eq_true before
                by_cases next : b = c
                · subst c
                  rw [if_neg same]
                  exact before
                · rw [if_neg next] at later
                  have lessNext := of_decide_eq_true later
                  have different : a ≠ c := by
                    rintro rfl
                    omega
                  rw [if_neg different]
                  exact decide_eq_true (Nat.lt_trans less lessNext)

theorem isListBefore_connected {first second : List Char}
    (notBefore : isListBefore first second = false)
    (notAfter : isListBefore second first = false) : first = second := by
  induction first generalizing second with
  | nil =>
      cases second with
      | nil => rfl
      | cons b second => contradiction
  | cons a first ih =>
      cases second with
      | nil => contradiction
      | cons b second =>
          simp only [isListBefore] at notBefore notAfter
          by_cases same : a = b
          · subst b
            rw [if_pos rfl] at notBefore notAfter
            rw [ih notBefore notAfter]
          · rw [if_neg same] at notBefore
            rw [if_neg (Ne.symm same)] at notAfter
            have atLeast := of_decide_eq_false notBefore
            have atMost := of_decide_eq_false notAfter
            have values : a.toNat = b.toNat := by omega
            exact absurd (Char.toNat_inj.mp values) same

theorem isBefore_irrefl (text : String) : isBefore text text = false :=
  isListBefore_irrefl text.toList

theorem isBefore_trans {first second third : String} (before : isBefore first second = true)
    (later : isBefore second third = true) : isBefore first third = true :=
  isListBefore_trans before later

theorem isBefore_connected {first second : String} (notBefore : isBefore first second = false)
    (notAfter : isBefore second first = false) : first = second :=
  String.toList_inj.mp (isListBefore_connected notBefore notAfter)

theorem isBefore_asymm {first second : String} (before : isBefore first second = true) :
    isBefore second first = false := by
  cases after : isBefore second first with
  | false => rfl
  | true =>
      have cycle := isBefore_trans before after
      rw [isBefore_irrefl] at cycle
      contradiction

theorem isAtMost_iff {first second : String} :
    isAtMost first second = true ↔ first = second ∨ isBefore first second = true := by
  rw [isAtMost, Bool.not_eq_true']
  constructor
  · intro notAfter
    cases before : isBefore first second with
    | true => exact Or.inr rfl
    | false => exact Or.inl (isBefore_connected before notAfter)
  · rintro (rfl | before)
    · exact isBefore_irrefl first
    · exact isBefore_asymm before

end Parlance.Text
