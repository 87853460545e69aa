import BookingRetry.Proofs.Text.Numeral
import BookingRetry.Stamp

/-!
Every stamp is read back from its written form, which has no bracket in it.
-/
namespace BookingRetry.Stamp

theorem daysInMonth_le (year : Int) (month : Nat) : daysInMonth year month ≤ 31 := by
  unfold daysInMonth
  split <;> (try split) <;> omega

theorem takeDigits_append {ds : Text} (all : ds.all Numeral.isDigit = true) {mark : Char}
    (other : Numeral.isDigit mark = false) (rest : Text) :
    takeDigits (ds ++ mark :: rest) = (ds, mark :: rest) := by
  induction ds with
  | nil => simp [takeDigits, other]
  | cons d ds ih =>
    simp only [List.all_cons, Bool.and_eq_true] at all
    have rest := ih all.2
    simp only [takeDigits, Prod.mk.injEq] at rest
    simp [takeDigits, all.1, rest]

section Fields

variable {f : StampFields} {digits : Text} {n : Nat}

def afterYear (f : StampFields) : Text :=
  '-' :: (Numeral.padded 2 f.month ++ '-' :: (Numeral.padded 2 f.day ++
    ' ' :: (Numeral.padded 2 f.hour ++ ':' :: (Numeral.padded 2 f.minute ++
      ':' :: Numeral.padded 2 f.second))))

theorem written_eq (s : Stamp) : s.written = writtenYear s.year ++ afterYear s.toStampFields := by
  simp [written, afterYear]

theorem takeField?_padded (mark : Char) {n : Nat} (small : n < 100) (rest : Text) :
    takeField? mark (mark :: (Numeral.padded 2 n ++ rest)) = some (n, rest) := by
  obtain ⟨a, b, eq⟩ := Numeral.padded_two small
  have read := Numeral.readDigits?_padded 2 n
  rw [eq] at read ⊢
  simp [takeField?, read]

theorem takeSign_digit {c : Char} (digit : Numeral.isDigit c = true) (t : Text) :
    takeSign (c :: t) = (false, c :: t) := by
  unfold takeSign
  split
  · rename_i same
    cases same
    contradiction
  · rename_i same
    cases same
    contradiction
  · rfl

/-- The fields of a text are read as they are written, after any sign. -/
theorem fields?_of_sign {t : Text} {negative : Bool} (valid : f.Valid)
    (sign : takeSign t = (negative, digits ++ afterYear f))
    (all : digits.all Numeral.isDigit = true) (read : Numeral.readDigits? digits = some n) :
    fields? t = some { f with year := if negative then -(n : Int) else n } := by
  obtain ⟨_, ⟨_, month⟩, ⟨_, day⟩, hour, minute, second⟩ := valid
  have days := daysInMonth_le f.year f.month
  have last := @takeField?_padded ':' f.second (by omega) []
  rw [List.append_nil] at last
  unfold fields?
  simp only [sign, afterYear]
  rw [takeDigits_append all rfl]
  simp only [read, takeField?_padded _ (show f.month < 100 by omega),
    takeField?_padded _ (show f.day < 100 by omega),
    takeField?_padded _ (show f.hour < 100 by omega),
    takeField?_padded _ (show f.minute < 100 by omega), last, bind, Option.bind]
  rfl

end Fields

theorem fields?_written (s : Stamp) : fields? s.written = some s.toStampFields := by
  obtain ⟨some, all, _⟩ := Numeral.padded_digits 4 s.year.natAbs
  have read := Numeral.readDigits?_padded 4 s.year.natAbs
  rw [written_eq]
  unfold writtenYear
  by_cases negative : s.year < 0
  · have year : -(s.year.natAbs : Int) = s.year := by omega
    rw [if_pos negative, fields?_of_sign s.valid rfl all read, if_pos rfl, year]
  · have year : (s.year.natAbs : Int) = s.year := by omega
    rw [if_neg negative]
    split
    · obtain ⟨c, cs, eq, digit⟩ := Numeral.digits_start some all
      have sign := takeSign_digit digit (cs ++ afterYear s.toStampFields)
      rw [eq] at all read ⊢
      rw [← List.cons_append] at sign
      rw [fields?_of_sign s.valid sign all read, if_neg nofun, year]
    · rw [fields?_of_sign s.valid rfl all read, if_neg nofun, year]

theorem read?_written (s : Stamp) : read? s.written = some s := by
  unfold read?
  rw [fields?_written]
  simp [s.valid]

theorem written_of_read? {t : Text} {s : Stamp} (found : read? t = some s) : s.written = t := by
  unfold read? at found
  split at found
  · contradiction
  · split at found
    · dsimp only at found
      split at found
      · rename_i same
        cases found
        exact same
      · contradiction
    · contradiction

def isStampChar (c : Char) : Bool := Numeral.isDigit c || ['+', '-', ' ', ':'].contains c

theorem isStampChar_ascii {c : Char} (h : isStampChar c = true) : c.toNat < 0x80 := by
  unfold isStampChar at h
  rw [Bool.or_eq_true] at h
  rcases h with digit | mark
  · exact Nat.lt_of_le_of_lt (Numeral.isDigit_range digit).2 (by decide)
  · simp only [List.contains_eq_mem, decide_eq_true_eq, List.mem_cons, List.not_mem_nil,
      or_false] at mark
    rcases mark with rfl | rfl | rfl | rfl <;> decide

theorem padded_stampChars (width n : Nat) : (Numeral.padded width n).all isStampChar = true := by
  obtain ⟨_, all, _⟩ := Numeral.padded_digits width n
  rw [List.all_eq_true] at all ⊢
  intro c member
  simp [isStampChar, all c member]

theorem written_stampChars (s : Stamp) : s.written.all isStampChar = true := by
  have year : (writtenYear s.year).all isStampChar = true := by
    unfold writtenYear
    split
    · simp [padded_stampChars, isStampChar]
    · split <;> simp [padded_stampChars, isStampChar]
  simp [written, year, padded_stampChars, isStampChar]

theorem not_mem_written {c : Char} (other : isStampChar c = false) (s : Stamp) :
    c ∉ s.written :=
  Text.not_mem_of_all (written_stampChars s) other

theorem written_length {s : Stamp} (early : 0 ≤ s.year) (late : s.year ≤ 9999) :
    s.written.length = 19 := by
  obtain ⟨_, ⟨_, month⟩, ⟨_, day⟩, hour, minute, second⟩ := s.valid
  have days := daysInMonth_le s.year s.month
  have two : ∀ n, n < 100 → (Numeral.padded 2 n).length = 2 := fun _ small =>
    Numeral.padded_length small
  have year : (writtenYear s.year).length = 4 := by
    have few : s.year.natAbs < 10000 := by omega
    unfold writtenYear
    rw [if_neg (by omega), if_pos late]
    exact Numeral.padded_length few
  rw [written_eq]
  simp only [afterYear, List.length_append, List.length_cons, year, two s.month (by omega),
    two s.day (by omega), two s.hour (by omega), two s.minute (by omega),
    two s.second (by omega)]

end BookingRetry.Stamp
