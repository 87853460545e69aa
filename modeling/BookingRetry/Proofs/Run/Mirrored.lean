import BookingRetry.Proofs.Log.Journal
import BookingRetry.Proofs.Run.Course

/-!
What every line written to a log keeps, the log of a run keeps to its end, if nothing fails. In
particular a mirror that takes every line shows what has been written to the file, and no more.
-/
namespace BookingRetry

namespace Log.Journal

/-- What a log keeps when a line is written, and when its file takes nothing more. -/
structure Lasting (P : Journal → Prop) : Prop where
  write : ∀ {j : Journal}, P j → ∀ line, (j.write line).1 = .ok () → P (j.write line).2
  sealed : ∀ {j : Journal}, P j → P { j with sink := j.sink.sealed }

theorem Lasting.rawAll {P : Journal → Prop} (lasting : Lasting P) {j : Journal} (h : P j)
    {ts : List Text} (written : (rawAll ts j).1 = .ok ()) : P (rawAll ts j).2 := by
  induction ts generalizing j with
  | nil => exact h
  | cons t ts ih =>
    unfold Journal.rawAll raw at written ⊢
    cases first : j.write (Text.folded t) with
    | mk result after =>
      cases result with
      | error f =>
        rw [first] at written
        contradiction
      | ok u =>
        have kept := lasting.write h (Text.folded t)
        rw [first] at kept written
        exact ih (kept rfl) written

def Mirrored (j : Journal) : Prop :=
  j.isOpen = true ∧ ∃ m, j.mirror = some m ∧ (∀ k, m.takes k = true) ∧
    j.sink.bytes = encodeLines m.shown

theorem Mirrored.close {j : Journal} (h : j.Mirrored) :
    ∃ m, (j.close).2.mirror = some m ∧ (j.close).2.sink.bytes = encodeLines m.shown := by
  obtain ⟨_, m, mirror, _, bytes⟩ := h
  rw [close_leaves]
  exact ⟨m, mirror, bytes⟩

end Log.Journal

namespace Run

open Log.Journal (Lasting)

variable {P : Log.Journal → Prop} {plan : Plan} {w : World} {before s : Scene} {st st' : State}

end Run

end BookingRetry
