import BookingRetry.Log.Record
import BookingRetry.Proofs.Stamp
import BookingRetry.Proofs.Text.Lines

/-!
A record is read back from its written form; and what is read as a record starts with a bracket and
ends with its message.
-/
namespace BookingRetry.Log

theorem Level.ofName?_name (l : Level) : Level.ofName? l.name = some l := by
  cases l <;> rfl

theorem Level.name_of_ofName? {t : Text} {l : Level} (found : Level.ofName? t = some l) :
    l.name = t := by
  have named := List.find?_some found
  exact of_decide_eq_true named

theorem Level.name_letters (l : Level) : l.name.all Char.isUpper = true := by
  cases l <;> rfl

theorem Level.not_mem_name {c : Char} (other : c.isUpper = false) (l : Level) : c ∉ l.name :=
  Text.not_mem_of_all l.name_letters other

theorem written_eq (r : Record) :
    r.written =
      ['['] ++ (r.stamp.written ++ (stampEnd ++ (r.level.name ++ (levelEnd ++ r.message)))) := by
  simp [Record.written]

theorem record?_written (r : Record) : Line.record? r.written = some r := by
  have stamp : Text.cut? stampEnd
      (r.stamp.written ++ (stampEnd ++ (r.level.name ++ (levelEnd ++ r.message)))) =
      some (r.stamp.written, r.level.name ++ (levelEnd ++ r.message)) :=
    Text.cut?_append (Stamp.not_mem_written rfl r.stamp) _ _
  have level : Text.cut? levelEnd (r.level.name ++ (levelEnd ++ r.message)) =
      some (r.level.name, r.message) :=
    Text.cut?_append (Level.not_mem_name rfl r.level) _ _
  unfold Line.record?
  rw [written_eq, Text.after?_append]
  simp only [stamp, level, Stamp.read?_written, Level.ofName?_name]
  rfl

/-- A text is read as a record only if it is the written form of that record. -/
theorem written_of_record? {t : Text} {r : Record} (found : Line.record? t = some r) :
    r.written = t := by
  unfold Line.record? at found
  split at found
  · contradiction
  · rename_i rest start
    split at found
    · contradiction
    · rename_i stamp rest' cut
      split at found
      · rename_i s level message read cut'
        obtain ⟨l, named, rfl⟩ := Option.map_eq_some_iff.mp found
        rw [Text.after?_eq_some start, Text.cut?_eq_some cut, Text.cut?_eq_some cut', written_eq]
        simp [Stamp.written_of_read? read, Level.name_of_ofName? named]
      · contradiction

theorem record?_eq_some {t : Text} {r : Record} (found : Line.record? t = some r) :
    ∃ front, t = '[' :: (front ++ r.message) := by
  refine ⟨r.stamp.written ++ stampEnd ++ r.level.name ++ levelEnd, ?_⟩
  rw [← written_of_record? found]
  simp [Record.written]

theorem written_ofText (t : Text) : (Line.ofText t).written = t := by
  unfold Line.ofText
  cases found : Line.record? t with
  | none => rfl
  | some r => exact written_of_record? found

theorem ofText_written (r : Record) : Line.ofText r.written = .record r := by
  unfold Line.ofText
  rw [record?_written]

theorem written_single {r : Record} (single : Text.Single r.message) : Text.Single r.written := by
  obtain ⟨unbroken, whole⟩ := single
  have parts : r.written =
      ('[' :: r.stamp.written ++ stampEnd ++ r.level.name ++ levelEnd) ++ r.message := rfl
  rw [parts]
  constructor
  · have stamp : '\n' ∉ r.stamp.written := Stamp.not_mem_written rfl r.stamp
    have level : '\n' ∉ r.level.name := Level.not_mem_name rfl r.level
    have marks : '\n' ∉ stampEnd ∧ '\n' ∉ levelEnd := by decide
    simp [stamp, level, marks, unbroken]
  · by_cases nothing : r.message = []
    · rw [nothing, List.append_nil, Text.last_of_append _ (by decide)]
      decide
    · rw [Text.last_of_append _ nothing]
      exact whole

end BookingRetry.Log
