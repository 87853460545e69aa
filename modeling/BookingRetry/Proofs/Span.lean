import BookingRetry.Clock

/-!
Spans as numbers of nanoseconds.
-/
namespace BookingRetry

namespace Span

theorem lt_iff_nanos {a b : Span} : a < b ↔ a.nanos < b.nanos := Iff.rfl

theorem le_iff_nanos {a b : Span} : a ≤ b ↔ a.nanos ≤ b.nanos := Iff.rfl

theorem ext_nanos {a b : Span} (h : a.nanos = b.nanos) : a = b := by
  cases a; cases b
  simpa using h

theorem add_nanos (a b : Span) : (a.add b).nanos = min (a.nanos + b.nanos) maxNanos := rfl

theorem add_nanos_of_le {a b : Span} (inside : a.nanos + b.nanos ≤ maxNanos) :
    (a.add b).nanos = a.nanos + b.nanos :=
  Nat.min_eq_left inside

theorem nanos_le_add (a b : Span) : a.nanos ≤ (a.add b).nanos := by
  rw [add_nanos]
  have inside := a.in_range
  omega

theorem sub_nanos (a b : Span) : (a.sub b).nanos = a.nanos - b.nanos := rfl

@[simp] theorem add_zero (a : Span) : a.add zero = a :=
  ext_nanos (Nat.min_eq_left a.in_range)

end Span

namespace Pacing

theorem check_first {p : Pacing} (first : p.last = none) (now : Span) :
    (p.check now).free = true := by
  simp [check, first]

theorem check_free_iff {p : Pacing} {last : Span} (called : p.last = some last) (now : Span) :
    (p.check now).free = true ↔ p.minInterval.nanos ≤ now.nanos - last.nanos := by
  unfold check
  rw [called]
  dsimp only
  split
  · rename_i enough
    exact ⟨fun _ => enough, fun _ => rfl⟩
  · rename_i short
    exact ⟨nofun, fun enough => absurd enough short⟩

theorem check_wait {p : Pacing} {last : Span} (called : p.last = some last) {now : Span}
    (busy : (p.check now).free = false) :
    (p.check now).wait.nanos = p.minInterval.nanos - (now.nanos - last.nanos) := by
  unfold check at busy ⊢
  rw [called] at busy ⊢
  dsimp only at busy ⊢
  split
  · rename_i enough
    rw [if_pos enough] at busy
    contradiction
  · rfl

end Pacing

end BookingRetry
