import BookingRetry.Proofs.Json.Writing

/-!
Every number is written as the grammar of JSON wants it, the binary ones included: no digit follows
a leading nought, and digits stand on both sides of a point.
-/
namespace BookingRetry

namespace Number

/-- Only nought has the digit nought, and no zeros follow it. -/
def Decimal.Proper (d : Decimal) : Prop := d.digits ≠ 0 ∨ d.exponent = 0

variable {x : Binary64}

theorem mantissa_pos (some : x.isZero = false) : 0 < x.mantissa := by
  simp only [Binary64.isZero, decide_eq_false_iff_not] at some
  omega

theorem readsBack_digits (some : x.isZero = false) {d : Decimal} (back : readsBack x d = true) :
    d.digits ≠ 0 := by
  intro none
  have positive := mantissa_pos some
  have below (n : Nat) (j : Int) (large : 0 < n) : compareScaled 0 d.exponent n j = .lt := by
    have scaled : 0 < n * Nat.pow 2 j.toNat * Nat.pow 10 (-d.exponent).toNat :=
      Nat.mul_pos (Nat.mul_pos large (Nat.pow_pos (by decide))) (Nat.pow_pos (by decide))
    simpa [compareScaled, Nat.compare_eq_lt] using scaled
  simp only [readsBack, none] at back
  rw [below] at back
  · simp at back
  · split <;> omega

theorem onGrid?_readsBack {tie : Tie} {e : Int} {d : Decimal} (found : onGrid? tie x e = some d) :
    readsBack x d = true := by
  unfold onGrid? at found
  dsimp only at found
  split at found
  · contradiction
  · rename_i below _
    cases found
    exact below
  · rename_i above
    cases found
    exact above
  · rename_i below above
    split at found
    · cases found
      exact below
    split at found
    · cases found
      exact above
    split at found
    · cases found
      exact above
    split at found
    · cases found
      exact below
    · cases found
      exact above

theorem stripped_digits (room : Nat) {d : Decimal} (some : d.digits ≠ 0) :
    (stripped room d).digits ≠ 0 := by
  induction room generalizing d with
  | zero => exact some
  | succ room ih =>
    unfold stripped
    split
    · apply ih
      show d.digits / 10 ≠ 0
      omega
    · exact some

theorem shortest_proper (tie : Tie) (x : Binary64) : (shortest tie x).Proper := by
  unfold shortest
  split
  · exact .inr rfl
  rename_i some
  rw [Bool.not_eq_true] at some
  left
  dsimp only
  split
  · rename_i d found
    obtain ⟨n, _, grid⟩ := List.exists_of_findSome?_eq_some found
    exact stripped_digits 20 (readsBack_digits some (onGrid?_readsBack grid))
  · have scaled : 0 < x.num * Nat.pow 5 (-x.exponent).toNat :=
      Nat.mul_pos (Nat.mul_pos (mantissa_pos some) (Nat.pow_pos (by decide)))
        (Nat.pow_pos (by decide))
    exact Nat.pos_iff_ne_zero.mp scaled

theorem zeros_digits (n : Nat) : (List.replicate n '0').all Numeral.isDigit = true := by
  rw [List.all_replicate]
  split <;> rfl

def padded (n digits : Nat) : Text :=
  List.replicate (digits - (Numeral.written n).length) '0' ++ Numeral.written n

theorem padded_digits (n digits : Nat) : ∀ c ∈ padded n digits, Numeral.isDigit c = true := by
  obtain ⟨-, all, -⟩ := Numeral.written_digits n
  rw [← List.all_eq_true, padded, List.all_append, all, zeros_digits]
  rfl

theorem padded_length (n digits : Nat) :
    (padded n digits).length = max digits (Numeral.written n).length := by
  rw [padded, List.length_append, List.length_replicate]
  omega

theorem padded_lead {n places : Nat} {ds : Text}
    (lead : (padded n (places + 1)).take ((padded n (places + 1)).length - places) = '0' :: ds) :
    ds = [] := by
  have length := padded_length n (places + 1)
  by_cases long : places + 1 ≤ (Numeral.written n).length
  · have whole := List.take_append_drop ((padded n (places + 1)).length - places)
      (padded n (places + 1))
    have bare : padded n (places + 1) = Numeral.written n := by
      rw [padded, Nat.sub_eq_zero_of_le long, List.replicate_zero, List.nil_append]
    rw [lead] at whole
    exact (List.append_eq_nil_iff.mp (Numeral.written_lead (bare.symm.trans whole.symm))).1
  · have one := congrArg List.length lead
    rw [List.length_take, List.length_cons, length] at one
    exact List.eq_nil_of_length_eq_zero (by omega)

theorem plain_digits {d : Decimal} (proper : d.Proper) :
    Json.Digits d.plain.1 ∧ (∀ ds, d.plain.1 = '0' :: ds → ds = []) ∧
      d.plain.2.all Numeral.isDigit = true := by
  obtain ⟨some, all, -⟩ := Numeral.written_digits d.digits
  unfold Decimal.plain
  dsimp only
  split
  · refine ⟨⟨by simp [some], by rw [List.all_append, all, zeros_digits]; rfl⟩, ?_, rfl⟩
    intro ds lead
    rcases proper with positive | whole
    · have head := Numeral.written_head (Nat.pos_of_ne_zero positive)
      obtain ⟨c, cs, eq⟩ := List.exists_cons_of_ne_nil some
      rw [eq] at lead head
      cases lead
      exact absurd rfl head
    · rw [whole] at lead
      exact Numeral.written_lead (by simpa using lead)
  · generalize (-d.exponent).toNat = places
    have digits := padded_digits d.digits (places + 1)
    have length := padded_length d.digits (places + 1)
    refine ⟨⟨?_, ?_⟩, fun _ lead => padded_lead lead, ?_⟩
    · apply List.ne_nil_of_length_pos
      show 0 < ((padded d.digits (places + 1)).take
        ((padded d.digits (places + 1)).length - places)).length
      rw [List.length_take]
      omega
    · exact List.all_eq_true.mpr fun c member => digits c (List.mem_of_mem_take member)
    · exact List.all_eq_true.mpr fun c member => digits c (List.mem_of_mem_drop member)

end Number

namespace Json

theorem digits_written (n : Nat) : Digits (Numeral.written n) := by
  obtain ⟨some, all, -⟩ := Numeral.written_digits n
  exact ⟨some, all⟩

theorem figureText_magnitude (x : Binary64) :
    ∃ whole fraction exponent pointed, ∀ negative,
      FigureText ⟨negative, whole, fraction, exponent, pointed⟩
        ((if negative then ['-'] else []) ++ writtenMagnitude x) := by
  unfold writtenMagnitude
  dsimp only
  generalize shown : Number.shortest .toEven x = d
  have proper := Number.shortest_proper .toEven x
  rw [shown] at proper
  split
  · obtain ⟨whole, lead, all⟩ := Number.plain_digits proper
    refine ⟨d.plain.1, if d.plain.2.isEmpty then ['0'] else d.plain.2, none, true, ?_⟩
    intro negative
    refine ⟨whole, lead, ?_, [], .none, by simp⟩
    show Digits (if d.plain.2.isEmpty then ['0'] else d.plain.2)
    split
    · exact ⟨by decide, rfl⟩
    · rename_i some
      exact ⟨by simpa using some, all⟩
  · obtain ⟨nonempty, all⟩ := digits_written d.digits
    have sign : (decide (d.leading < 0), [if d.leading < 0 then '-' else '+']) ∈
        [(false, []), (false, ['+']), (true, ['-'])] := by
      by_cases down : d.leading < 0 <;> simp [down]
    obtain ⟨x, exponent⟩ : ∃ x, ExponentText x
        ('e' :: ([if d.leading < 0 then '-' else '+'] ++ Numeral.written d.leading.natAbs)) :=
      ⟨_, .some (.inl rfl) sign (digits_written d.leading.natAbs)⟩
    cases eq : Numeral.written d.digits with
    | nil => contradiction
    | cons c cs =>
      rw [eq, List.all_cons, Bool.and_eq_true] at all
      have first : Digits [c] := ⟨by simp, by simp [all.1]⟩
      have alone : ∀ ds, [c] = '0' :: ds → ds = [] := by simp
      cases cs with
      | nil =>
        refine ⟨[c], [], x, false, ?_⟩
        intro negative
        exact ⟨first, alone, rfl, _, exponent, rfl⟩
      | cons c' cs =>
        refine ⟨[c], c' :: cs, x, true, ?_⟩
        intro negative
        exact ⟨first, alone, ⟨by simp, all.2⟩, _, exponent, rfl⟩

theorem figureText_number (n : Number) : ∃ f, FigureText f n.written := by
  cases n with
  | whole n =>
    show ∃ f, FigureText f (Numeral.writtenInt n)
    unfold Numeral.writtenInt
    split
    · exact ⟨_, figureText_written true n.natAbs⟩
    · exact ⟨_, figureText_written false n.natAbs⟩
  | binary negative x =>
    obtain ⟨whole, fraction, exponent, pointed, figure⟩ := figureText_magnitude x
    exact ⟨_, figure negative⟩

end Json

end BookingRetry
