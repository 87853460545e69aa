import BookingRetry.Proofs.Text.Basic
import BookingRetry.Text.Basic
import BookingRetry.Text.Numeral

/-!
Numbers are read back from their digits, with zeros in front or without.
-/
namespace BookingRetry.Numeral

theorem isDigit_range {c : Char} (digit : isDigit c = true) : 48 ≤ c.toNat ∧ c.toNat ≤ 57 := by
  simpa [isDigit, Char.le_def, UInt32.le_iff_toNat_le] using digit

theorem visible_of_digit {c : Char} (digit : isDigit c = true) : Text.isBlankChar c = false := by
  have bounds := isDigit_range digit
  simp only [Text.isBlankChar, Text.blankRanges, List.any_cons, List.any_nil]
  simp
  omega

theorem isDigit_digitChar : ∀ d < 10, isDigit (digitChar d) = true := by decide

theorem digitValue_digitChar : ∀ d < 10, digitValue (digitChar d) = d := by decide

theorem written_small {n : Nat} (small : n < 10) : written n = [digitChar n] := by
  unfold written digits digitsReversed
  simp [small]

theorem written_large {n : Nat} (large : ¬ n < 10) :
    written n = written (n / 10) ++ [digitChar (n % 10)] := by
  unfold written digits
  rw [digitsReversed, if_neg large]
  simp

theorem value_concat (ds : Text) (c : Char) : value (ds ++ [c]) = value ds * 10 + digitValue c := by
  simp [value, valueFrom]

theorem written_digits (n : Nat) :
    written n ≠ [] ∧ (written n).all isDigit = true ∧ value (written n) = n := by
  induction n using Nat.strongRecOn with
  | ind n ih =>
    by_cases small : n < 10
    · rw [written_small small]
      refine ⟨nofun, ?_, ?_⟩
      · simp [isDigit_digitChar n small]
      · simp [value, valueFrom, digitValue_digitChar n small]
    · have last : n % 10 < 10 := Nat.mod_lt _ (by omega)
      obtain ⟨_, front, number⟩ := ih (n / 10) (by omega)
      rw [written_large small]
      refine ⟨by simp, ?_, ?_⟩
      · simp [front, isDigit_digitChar _ last]
      · rw [value_concat, number, digitValue_digitChar _ last]
        omega

theorem value_zeros (k : Nat) (ds : Text) : value (List.replicate k '0' ++ ds) = value ds := by
  induction k with
  | zero => rfl
  | succ k ih =>
    rw [← ih]
    rfl

theorem padded_digits (width n : Nat) :
    padded width n ≠ [] ∧ (padded width n).all isDigit = true ∧ value (padded width n) = n := by
  obtain ⟨some, all, number⟩ := written_digits n
  unfold padded
  refine ⟨by simp [some], ?_, ?_⟩
  · have zeros : (List.replicate (width - (written n).length) '0').all isDigit = true := by
      rw [List.all_replicate]
      split <;> rfl
    rw [List.all_append, zeros, all]
    rfl
  · exact (value_zeros _ _).trans number

theorem readDigits?_of_all {ds : Text} (some : ds ≠ []) (all : ds.all isDigit = true) :
    readDigits? ds = .some (value ds) := by
  cases ds with
  | nil => contradiction
  | cons c cs => simp [readDigits?, all]

theorem readDigits?_written (n : Nat) : readDigits? (written n) = some n := by
  obtain ⟨some, all, number⟩ := written_digits n
  rw [readDigits?_of_all some all, number]

theorem readDigits?_padded (width n : Nat) : readDigits? (padded width n) = some n := by
  obtain ⟨some, all, number⟩ := padded_digits width n
  rw [readDigits?_of_all some all, number]

theorem not_mem_written {c : Char} (other : isDigit c = false) (n : Nat) : c ∉ written n :=
  Text.not_mem_of_all (written_digits n).2.1 other

theorem digits_start {ds : Text} (some : ds ≠ []) (all : ds.all isDigit = true) :
    ∃ c cs, ds = c :: cs ∧ isDigit c = true := by
  cases ds with
  | nil => contradiction
  | cons c cs =>
    simp only [List.all_cons, Bool.and_eq_true] at all
    exact ⟨c, cs, rfl, all.1⟩

theorem readWord?_written {n : Nat} (fits : n ≤ maxWord) : readWord? (written n) = some n := by
  obtain ⟨some, all, _⟩ := written_digits n
  obtain ⟨c, cs, eq, digit⟩ := digits_start some all
  have read := readDigits?_written n
  rw [eq] at read ⊢
  have sign : c ≠ '+' := by
    rintro rfl
    contradiction
  unfold readWord?
  split
  · rename_i rest same
    cases same
    contradiction
  · simp [read, fits]

inductive Spells (n : Nat) : Text → Prop where
  | bare {ds : Text} (some : ds ≠ []) (all : ds.all isDigit = true) (worth : value ds = n) :
      Spells n ds
  | signed {ds : Text} (some : ds ≠ []) (all : ds.all isDigit = true) (worth : value ds = n) :
      Spells n ('+' :: ds)

theorem readDigits?_eq_some_iff {t : Text} {n : Nat} :
    readDigits? t = some n ↔ t ≠ [] ∧ t.all isDigit = true ∧ value t = n := by
  cases t with
  | nil => simp [readDigits?]
  | cons c cs => simp [readDigits?, and_assoc]

theorem readWord?_eq_some_iff {t : Text} {n : Nat} :
    readWord? t = some n ↔ Spells n t ∧ n ≤ maxWord := by
  have digits : ∀ body, (readDigits? body).filter (· ≤ maxWord) = some n ↔
      (body ≠ [] ∧ body.all isDigit = true ∧ value body = n) ∧ n ≤ maxWord := by
    intro body
    rw [Option.filter_eq_some_iff, readDigits?_eq_some_iff]
    simp
  unfold readWord?
  split
  · rename_i rest
    rw [digits]
    constructor
    · rintro ⟨⟨some, all, worth⟩, fits⟩
      exact ⟨.signed some all worth, fits⟩
    · rintro ⟨spelled, fits⟩
      cases spelled with
      | bare some all worth => simp [isDigit] at all
      | signed some all worth => exact ⟨⟨some, all, worth⟩, fits⟩
  · rename_i unsigned
    rw [digits]
    constructor
    · rintro ⟨⟨some, all, worth⟩, fits⟩
      exact ⟨.bare some all worth, fits⟩
    · rintro ⟨spelled, fits⟩
      cases spelled with
      | bare some all worth => exact ⟨⟨some, all, worth⟩, fits⟩
      | signed => exact absurd rfl (unsigned _)

theorem padded_two {n : Nat} (small : n < 100) : ∃ a b, padded 2 n = [a, b] := by
  unfold padded
  by_cases short : n < 10
  · rw [written_small short]
    exact ⟨'0', digitChar n, rfl⟩
  · have first : n / 10 < 10 := by omega
    rw [written_large short, written_small first]
    exact ⟨digitChar (n / 10), digitChar (n % 10), rfl⟩

theorem written_length_le {k n : Nat} (small : n < Nat.pow 10 (k + 1)) :
    (written n).length ≤ k + 1 := by
  induction k generalizing n with
  | zero =>
    rw [written_small small]
    exact Nat.le_refl 1
  | succ k ih =>
    by_cases short : n < 10
    · rw [written_small short]
      exact Nat.le_add_left 1 (k + 1)
    · have front : n / 10 < Nat.pow 10 (k + 1) := by
        have grown : Nat.pow 10 (k + 1 + 1) = Nat.pow 10 (k + 1) * 10 := rfl
        omega
      rw [written_large short, List.length_append]
      exact Nat.succ_le_succ (ih front)

theorem padded_length {k n : Nat} (small : n < Nat.pow 10 (k + 1)) :
    (padded (k + 1) n).length = k + 1 := by
  have fits := written_length_le small
  unfold padded
  rw [List.length_append, List.length_replicate]
  omega

end BookingRetry.Numeral
