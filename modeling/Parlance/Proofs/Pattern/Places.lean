import Parlance.Proofs.Pattern.DescentRuns

namespace Parlance.Pattern

/-! # Places and their positions

A position belongs to one place of the pattern only, so that of an error tells where the reader
stopped. Positions come in the order of their places, and they are the same whether the text in
front of the place is walked through or cut by offsets in bytes.
-/

/-- Places of a pattern have their positions in the order in which they come, from the first line
and column on, and lines and columns are counted by characters. So the position of an error tells
where the reader stopped. -/
theorem position_tells_place (pattern : String) :
    (∀ earlier later : List Char, earlier <:+ pattern.toList → later <:+ pattern.toList →
      later.length < earlier.length →
        (Position.ofRest pattern.toList earlier).Precedes
          (Position.ofRest pattern.toList later)) ∧
    (∀ front rest : String, pattern = front ++ rest →
      ∃ place, Position.ofRest pattern.toList rest.toList = place ∧
        Position.ofBytes? pattern rest = some place ∧ 1 ≤ place.line ∧ 1 ≤ place.column ∧
        place.line = 1 + front.toList.count '\n' ∧
        place.column = 1 + (front.toList.reverse.takeWhile (· != '\n')).length) ∧
    ∀ (kinds : DirectiveKinds) (error : Error), parse kinds pattern = .error error →
      ∃ rest, readPattern kinds pattern.toList = .error ⟨error.cause, rest⟩ ∧
        ∀ other, other <:+ pattern.toList →
          (Position.ofRest pattern.toList other = error.position ↔ other = rest) := by
  refine ⟨fun earlier later first second longer => Position.ofRest_precedes longer first second,
    ?_, ?_⟩
  · rintro front rest rfl
    have line := Position.line_after front.toList
    have column := Position.column_after front.toList
    rw [String.toList_append, Position.ofRest_append]
    exact ⟨_, rfl, Position.ofBytes?_append front rest, by omega, by omega, line, column⟩
  · intro kinds error failed
    obtain ⟨front, rest, whole, stopped, position, _⟩ := place_in_range failed
    have lists : pattern.toList = front.toList ++ rest.toList := by
      rw [whole, String.toList_append]
    have reported : Position.ofRest pattern.toList rest.toList = error.position := by
      rw [lists, Position.ofRest_append, position]
    refine ⟨rest.toList, stopped, fun other ends => ⟨fun same => ?_, fun same => same ▸ reported⟩⟩
    exact Position.eq_of_ofRest_eq (same.trans reported.symm) ends ⟨front.toList, lists.symm⟩

/-- Letters of two and three bytes stand in front of a newline, at the beginning of the next line
and where the reader stops. -/
theorem position_among_wide_letters :
    let kinds : DirectiveKinds := ⟨(· == "plural"), (· == "plural")⟩
    let pattern := "aé\n€b\x7b€"
    (Position.ofRest pattern.toList "€b\x7b€".toList).Precedes
        (Position.ofRest pattern.toList "b\x7b€".toList) ∧
      Position.ofBytes? pattern "b\x7b€" = some (Position.ofRest pattern.toList "b\x7b€".toList) ∧
      parse kinds pattern = .error ⟨⟨2, 4⟩, .argumentName, false⟩ ∧
      readPattern kinds pattern.toList = .error ⟨.argumentName, ['€']⟩ ∧
      ∀ other, other <:+ pattern.toList →
        Position.ofRest pattern.toList other = ⟨2, 4⟩ → other = ['€'] := by
  intro kinds pattern
  obtain ⟨order, places, errors⟩ := position_tells_place pattern
  have failed : parse kinds pattern = .error ⟨⟨2, 4⟩, .argumentName, false⟩ := by
    decide +kernel
  have stopped : readPattern kinds pattern.toList = .error ⟨.argumentName, ['€']⟩ := by
    decide +kernel
  have precedes := order "€b\x7b€".toList "b\x7b€".toList ⟨"aé\n".toList, by decide⟩
    ⟨"aé\n€".toList, by decide⟩ (by decide)
  obtain ⟨_, rfl, bytes, _⟩ := places "aé\n€" "b\x7b€" (by decide)
  obtain ⟨rest, left, unique⟩ := errors kinds _ failed
  obtain rfl : ['€'] = rest := by
    rw [stopped] at left
    exact (Failure.mk.inj (Except.error.inj left)).2
  exact ⟨precedes, bytes, failed, stopped, fun other ends => (unique other ends).mp⟩

end Parlance.Pattern
