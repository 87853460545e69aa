import BookingRetry.Proofs.Observer.Reuse

/-!
A tail of one log behind another. If the first one ends at a line end, the lines of both are those
of the whole: they are counted together, the last of them are shown, and the second log says how the
run has ended if it says anything about it. Where a character is cut by the line end, each log has
its part of it.
-/
namespace BookingRetry.TailReport

open Follow

def linesOf (content : Bytes) : List Text := Text.lines (Utf8.decodeLossy content)

structure ShowsLast (n : Nat) (lines shown : List Text) : Prop where
  behind : shown <:+ lines
  count : shown.length = min n lines.length

/-- A report that is put together from two logs, however many lines are asked of each of them. -/
structure Joins (n : Nat) (first second : Bytes) (whole : TailReport) : Prop where
  total : ∀ i k, whole.total = (ofBytes i first).total + (ofBytes k second).total
  shown : ShowsLast n (linesOf first ++ linesOf second) whole.shown
  finalState : ∀ i k, whole.finalState =
    (ofBytes k second).finalState.or (ofBytes i first).finalState

theorem leftover_of_closed {first : Bytes} (closed : unfinished first = []) :
    leftover first = [] := by
  rw [leftover, closed]
  rfl

theorem linesOf_append {first : Bytes} (closed : unfinished first = []) (second : Bytes) :
    linesOf (first ++ second) = linesOf first ++ linesOf second := by
  have whole : wholeLines (first ++ second) = wholeLines first ++ wholeLines second := by
    rw [wholeLines_append, closed, List.nil_append]
  have rest : leftover (first ++ second) = leftover second := by
    rw [leftover, unfinished_append, closed, List.nil_append, leftover]
  simp only [linesOf, lines_eq, whole, rest, leftover_of_closed closed, List.map_append,
    List.append_nil, List.append_assoc]

theorem showsLast_drop (n : Nat) (lines : List Text) :
    ShowsLast n lines (lines.drop (lines.length - n)) where
  behind := List.drop_suffix _ _
  count := by
    rw [List.length_drop]
    omega

/-- A tail of two logs, of which the first is empty or ends at a line end. -/
theorem ofBytes_joins {first : Bytes} (closed : first = [] ∨ first.getLast? = some lineFeed)
    (second : Bytes) (n : Nat) : Joins n first second (ofBytes n (first ++ second)) := by
  have lines := linesOf_append ((unfinished_eq_nil_iff first).mpr closed) second
  constructor
  · intro i k
    show (linesOf (first ++ second)).length = (linesOf first).length + (linesOf second).length
    rw [lines, List.length_append]
  · rw [← lines]
    exact showsLast_drop n _
  · intro i k
    show lastState? (linesOf (first ++ second)) =
      (lastState? (linesOf second)).or (lastState? (linesOf first))
    rw [lines, lastState?_append]

theorem cut_character_joins :
    (([0xC3, 0x0A] : Bytes) = [] ∨ ([0xC3, 0x0A] : Bytes).getLast? = some lineFeed) ∧
      Joins 1 [0xC3, 0x0A] [0xA9] (ofBytes 1 ([0xC3, 0x0A] ++ [0xA9])) :=
  ⟨Or.inr rfl, ofBytes_joins (Or.inr rfl) [0xA9] 1⟩

example : ofBytes 1 ([0xC3, 0x0A] ++ [0xA9]) = ⟨2, [['\uFFFD']], none⟩ := by decide +kernel

end BookingRetry.TailReport
