import BookingRetry.Proofs.Outcome

/-!
The grammar of closing markers. A text is read as a marker exactly if it is spelled like one, from
its first character to its last, and then it says one state and one count only. Markers are written
with the bare digits of a count; a plus sign and leading zeros are read too.
-/
namespace BookingRetry.FinalState

structure IsMarker (m : Text) (s : FinalState) : Prop where
  named : s.state ≠ []
  letters : ∀ c ∈ s.state, 'A' ≤ c ∧ c ≤ 'Z' ∨ c = '_'
  fits : s.attempts ≤ Numeral.maxWord
  spelled : ∃ digits, Numeral.Spells s.attempts digits ∧
    m = lit "===== FINAL: " ++ s.state ++ lit " (attempts=" ++ digits ++ lit ") ====="

theorem stateChars_iff (state : Text) :
    state.all isStateChar = true ↔ ∀ c ∈ state, 'A' ≤ c ∧ c ≤ 'Z' ∨ c = '_' := by
  simp [isStateChar]

theorem spelled_eq (state digits : Text) :
    lit "===== FINAL: " ++ state ++ lit " (attempts=" ++ digits ++ lit ") =====" =
      opening ++ ((state ++ (count ++ (digits ++ [')']))) ++ closing) := by
  simp [opening, count, closing, lit]

theorem isMarker_of_read? {m : Text} {s : FinalState} (found : read? m = some s) :
    IsMarker m s := by
  unfold read? at found
  split at found
  · contradiction
  rename_i rest start
  split at found
  · contradiction
  rename_i body stop
  split at found
  · contradiction
  rename_i state counted cut
  split at found
  · contradiction
  rename_i n number
  split at found
  · rename_i proper
    cases found
    simp only [Bool.and_eq_true, Bool.not_eq_true', List.isEmpty_eq_false_iff] at proper
    obtain ⟨digits, ends, read⟩ := Option.bind_eq_some_iff.mp number
    obtain ⟨spelled, fits⟩ := Numeral.readWord?_eq_some_iff.mp read
    refine ⟨proper.1, (stateChars_iff state).mp proper.2, fits, digits, spelled, ?_⟩
    rw [spelled_eq, Text.after?_eq_some start, Text.before?_eq_some stop, Text.cut?_eq_some cut,
      Text.before?_eq_some ends]
    simp
  · contradiction

theorem read?_of_isMarker {m : Text} {s : FinalState} (marker : IsMarker m s) :
    read? m = some s := by
  obtain ⟨named, letters, fits, digits, spelled, rfl⟩ := marker
  have number : Numeral.readWord? digits = some s.attempts :=
    Numeral.readWord?_eq_some_iff.mpr ⟨spelled, fits⟩
  rw [spelled_eq, read?_parts named ((stateChars_iff s.state).mpr letters) number]

theorem isMarker_marker {o : Outcome} (fits : o.attempts ≤ Numeral.maxWord) :
    IsMarker o.marker o.finalState := by
  obtain ⟨some, all, worth⟩ := Numeral.written_digits o.attempts
  refine ⟨o.stateName_letters.1, (stateChars_iff _).mp o.stateName_letters.2, fits,
    Numeral.written o.attempts, .bare some all worth, ?_⟩
  rw [spelled_eq]
  simp [Outcome.marker, Outcome.finalState, written]

/-- Markers and nothing else are read, each in one way; and the marker of an outcome, whose count
is a word, is read as its state and its attempts. -/
theorem read?_iff_isMarker :
    (∀ m s, read? m = some s ↔ IsMarker m s) ∧
      (∀ m s s', IsMarker m s → IsMarker m s' → s = s') ∧
      ∀ o : Outcome, o.attempts ≤ Numeral.maxWord →
        read? o.marker = some ⟨o.stateName, o.attempts⟩ := by
  refine ⟨fun m s => ⟨isMarker_of_read?, read?_of_isMarker⟩, ?_, ?_⟩
  · intro m s s' first second
    have same := (read?_of_isMarker first).symm.trans (read?_of_isMarker second)
    exact Option.some.inj same
  · intro o fits
    exact read?_of_isMarker (isMarker_marker fits)

theorem largest_count_read :
    (IsMarker (lit "===== FINAL: A_B (attempts=+0018446744073709551615) =====")
        ⟨lit "A_B", 18446744073709551615⟩ ∧
      (Outcome.timeout 18446744073709551615).attempts ≤ Numeral.maxWord) ∧
    read? (lit "===== FINAL: A_B (attempts=+0018446744073709551615) =====") =
      some ⟨lit "A_B", 18446744073709551615⟩ ∧
    read? (Outcome.timeout 18446744073709551615).marker =
      some ⟨lit "TIMEOUT", 18446744073709551615⟩ := by
  have marker : IsMarker (lit "===== FINAL: A_B (attempts=+0018446744073709551615) =====")
      ⟨lit "A_B", 18446744073709551615⟩ :=
    ⟨nofun, (stateChars_iff _).mp (by decide), by decide, lit "+0018446744073709551615",
      .signed nofun (by decide +kernel) (by decide +kernel), rfl⟩
  have fits : (Outcome.timeout 18446744073709551615).attempts ≤ Numeral.maxWord := by decide
  obtain ⟨reads, _, written⟩ := read?_iff_isMarker
  exact ⟨⟨marker, fits⟩, (reads _ _).mpr marker, written _ fits⟩

end BookingRetry.FinalState
