import BookingRetry.Proofs.Log.Record

/-!
Lines and records, in both directions. A calendar may read stamps in more spellings than the one in
which they are written: with blanks, without zeros in front, with signs. A line is taken for a
record only if its stamp comes out again as it stood there, and with that check no such freedom is
left: a record is read from its written form and from no other text.
-/
namespace BookingRetry

namespace Stamp

/-- A reading that takes every stamp as it is written, and any other spellings as it likes. -/
def Reads (calendar : Text → Option Stamp) : Prop := ∀ s : Stamp, calendar s.written = some s

def strictly (calendar : Text → Option Stamp) (t : Text) : Option Stamp :=
  (calendar t).filter fun s => s.written = t

theorem read?_eq_some_iff {t : Text} {s : Stamp} : read? t = some s ↔ s.written = t := by
  constructor
  · exact written_of_read?
  · rintro rfl
    exact read?_written s

theorem strictly_eq {calendar : Text → Option Stamp} (reads : Reads calendar) :
    strictly calendar = read? := by
  funext t
  apply Option.ext
  intro s
  rw [read?_eq_some_iff, strictly, Option.filter_eq_some_iff, decide_eq_true_eq]
  constructor
  · exact And.right
  · rintro rfl
    exact ⟨reads s, rfl⟩

theorem trimStart_written (s : Stamp) : Text.trimStart s.written = s.written := by
  have starts : ∃ c rest, s.written = c :: rest ∧ Text.isBlankChar c = false := by
    obtain ⟨some, all, _⟩ := Numeral.padded_digits 4 s.year.natAbs
    obtain ⟨c, cs, eq, digit⟩ := Numeral.digits_start some all
    have visible := Numeral.visible_of_digit digit
    rw [written_eq]
    unfold writtenYear
    split
    · exact ⟨'-', _, rfl, by decide⟩
    · split
      · rw [eq]
        exact ⟨c, _, rfl, visible⟩
      · exact ⟨'+', _, rfl, by decide⟩
  obtain ⟨c, rest, eq, visible⟩ := starts
  rw [eq]
  simp [Text.trimStart, visible]

end Stamp

namespace Log

def Line.recordBy? (readStamp : Text → Option Stamp) (t : Text) : Option Record :=
  match Text.after? ['['] t with
  | none => none
  | some t =>
    match Text.cut? stampEnd t with
    | none => none
    | some (stamp, rest) =>
      match readStamp stamp, Text.cut? levelEnd rest with
      | some stamp, some (level, message) =>
        (Level.ofName? level).map fun level => ⟨stamp, level, message⟩
      | _, _ => none

def Line.ofTextBy (readStamp : Text → Option Stamp) (t : Text) : Line :=
  match recordBy? readStamp t with
  | some r => record r
  | none => raw t

theorem ofTextBy_strictly {calendar : Text → Option Stamp} (reads : Stamp.Reads calendar)
    (t : Text) : Line.ofTextBy (Stamp.strictly calendar) t = Line.ofText t := by
  rw [Stamp.strictly_eq reads]
  rfl

theorem ofText_eq_record_iff {t : Text} {r : Record} :
    Line.ofText t = .record r ↔ r.written = t := by
  constructor
  · intro read
    have again := written_ofText t
    rwa [read] at again
  · rintro rfl
    exact ofText_written r

/-- With any calendar whose spellings are checked, lines and records are read as the log reads
them: every record from what is written of it, every line so that it is written again as it stood,
and a line as a record exactly if it is what is written of one, of which there is only one then. -/
theorem reading_inverts_writing {calendar : Text → Option Stamp} (reads : Stamp.Reads calendar) :
    let read := Line.ofTextBy (Stamp.strictly calendar)
    (∀ t, read t = Line.ofText t) ∧ (∀ r : Record, read r.written = .record r) ∧
      (∀ t, (read t).written = t) ∧
      (∀ t, (∃ r, read t = .record r) ↔ ∃ r : Record, r.written = t) ∧
      ∀ r r' : Record, r.written = r'.written → r = r' := by
  intro read
  have same : ∀ t, read t = Line.ofText t := ofTextBy_strictly reads
  refine ⟨same, ?_, ?_, ?_, ?_⟩
  · intro r
    rw [same, ofText_written]
  · intro t
    rw [same, written_ofText]
  · intro t
    simp only [same, ofText_eq_record_iff]
  · intro r r' alike
    have first := ofText_written r
    rw [alike, ofText_written] at first
    exact Line.record.inj first.symm

def blankCalendar (t : Text) : Option Stamp := Stamp.read? (Text.trimStart t)

def leapRecord : Record where
  stamp := ⟨⟨-1, 12, 31, 23, 59, 60⟩, by decide⟩
  level := .crit
  message := lit "] WARN: [2026-10-19 06:00:00] INFO: sold out"

theorem blank_stamp_stays_raw :
    Stamp.Reads blankCalendar ∧
      (blankCalendar (lit " 2026-10-19 06:00:00")).isSome = true ∧
      Line.ofTextBy (Stamp.strictly blankCalendar) (lit "[ 2026-10-19 06:00:00] INFO: sold out") =
        .raw (lit "[ 2026-10-19 06:00:00] INFO: sold out") ∧
      Line.ofTextBy (Stamp.strictly blankCalendar)
        (lit "[-0001-12-31 23:59:60] CRIT: ] WARN: [2026-10-19 06:00:00] INFO: sold out") =
        .record leapRecord := by
  have reads : Stamp.Reads blankCalendar := by
    intro s
    rw [blankCalendar, Stamp.trimStart_written, Stamp.read?_written]
  have leap : leapRecord.written =
      lit "[-0001-12-31 23:59:60] CRIT: ] WARN: [2026-10-19 06:00:00] INFO: sold out" := by
    decide +kernel
  obtain ⟨same, records, _⟩ := reading_inverts_writing reads
  refine ⟨reads, by decide +kernel, ?_, leap ▸ records leapRecord⟩
  rw [same]
  decide +kernel

end Log

end BookingRetry
