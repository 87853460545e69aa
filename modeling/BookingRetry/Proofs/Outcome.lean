import BookingRetry.Outcome
import BookingRetry.Proofs.Log.Record

/-!
The marker of an outcome is read back from its record. A line that does not start with a bracket,
or does not end with an equals sign, or is a record whose message does not start with one, states no
end of a run.
-/
namespace BookingRetry

namespace FinalState

theorem read?_ends {t : Text} {s : FinalState} (found : read? t = some s) :
    t.head? = some '=' ∧ t.getLast? = some '=' := by
  unfold read? at found
  split at found
  · contradiction
  · rename_i rest start
    split at found
    · contradiction
    · rename_i body stop
      rw [Text.after?_eq_some start, Text.before?_eq_some stop, ← List.append_assoc]
      constructor
      · rfl
      · rw [Text.last_of_append _ (by decide)]
        rfl

/-- The parts of a marker, as they are cut off one after another. The first cut comes right behind
the state, which has no blank in it. -/
theorem read?_parts {state digits : Text} {n : Nat} (named : state ≠ [])
    (letters : state.all isStateChar = true) (number : Numeral.readWord? digits = some n) :
    read? (opening ++ ((state ++ (count ++ (digits ++ [')']))) ++ closing)) =
      some ⟨state, n⟩ := by
  have absent : ' ' ∉ state := Text.not_mem_of_all letters rfl
  have cut : Text.cut? count (state ++ (count ++ (digits ++ [')']))) =
      some (state, digits ++ [')']) := Text.cut?_append absent _ _
  have nonempty : state.isEmpty = false := by simpa using named
  unfold read?
  rw [Text.after?_append]
  simp only [Text.before?_append, cut, Option.bind_some, number, nonempty, letters]
  rfl

theorem read?_written {s : FinalState} (named : s.state ≠ [])
    (letters : s.state.all isStateChar = true) (fits : s.attempts ≤ Numeral.maxWord) :
    read? s.written = some s := by
  have parts : s.written =
      opening ++ ((s.state ++ (count ++ (Numeral.written s.attempts ++ [')']))) ++ closing) := by
    simp [written]
  rw [parts, read?_parts named letters (Numeral.readWord?_written fits)]

theorem ofLine?_record (r : Log.Record) : ofLine? r.written = read? r.message := by
  rw [ofLine?, Log.record?_written]
  rfl

theorem ofLine?_eq_none_of_start {line : Text} (start : line.head? ≠ some '[') :
    ofLine? line = none := by
  unfold ofLine?
  cases found : Log.Line.record? line with
  | none => rfl
  | some r =>
    obtain ⟨front, rfl⟩ := Log.record?_eq_some found
    exact absurd rfl start

theorem ofLine?_eq_none_of_end {line : Text} (stop : line.getLast? ≠ some '=') :
    ofLine? line = none := by
  unfold ofLine?
  cases found : Log.Line.record? line with
  | none => rfl
  | some r =>
    obtain ⟨front, rfl⟩ := Log.record?_eq_some found
    cases marked : read? r.message with
    | none => exact marked
    | some s =>
      have last := (read?_ends marked).2
      have some : r.message ≠ [] := by
        intro nothing
        rw [nothing] at last
        contradiction
      rw [← List.cons_append, Text.last_of_append _ some] at stop
      exact absurd last stop

theorem ofLine?_eq_none_of_message {r : Log.Record} (start : r.message.head? ≠ some '=') :
    ofLine? r.written = none := by
  rw [ofLine?_record]
  cases marked : read? r.message with
  | none => rfl
  | some s => exact absurd (read?_ends marked).1 start

end FinalState

namespace Outcome

theorem stateName_letters (o : Outcome) :
    o.stateName ≠ [] ∧ o.stateName.all FinalState.isStateChar = true := by
  cases o <;> exact ⟨nofun, rfl⟩

theorem read?_marker {o : Outcome} (fits : o.attempts ≤ Numeral.maxWord) :
    FinalState.read? o.marker = some o.finalState :=
  FinalState.read?_written o.stateName_letters.1 o.stateName_letters.2 fits

theorem folded_marker (o : Outcome) : Text.folded o.marker = o.marker := by
  have number : '\n' ∉ Numeral.written o.attempts ∧ '\r' ∉ Numeral.written o.attempts :=
    ⟨Numeral.not_mem_written rfl _, Numeral.not_mem_written rfl _⟩
  have words : ∀ part ∈ [FinalState.opening, FinalState.count, FinalState.closing],
      '\n' ∉ part ∧ '\r' ∉ part := by decide
  simp only [List.forall_mem_cons] at words
  obtain ⟨opening, count, closing, _⟩ := words
  have name : '\n' ∉ o.stateName ∧ '\r' ∉ o.stateName :=
    ⟨Text.not_mem_of_all o.stateName_letters.2 rfl, Text.not_mem_of_all o.stateName_letters.2 rfl⟩
  apply Text.folded_plain
  · simp [marker, finalState, FinalState.written, opening, count, closing, name, number]
  · simp [marker, finalState, FinalState.written, opening, count, closing, name, number]

end Outcome

end BookingRetry
