import BookingRetry.Proofs.Span

/-!
How long a call has to wait: exactly what is left of the least distance after the last one. The
differences are also formed by seconds and nanoseconds, as a clock counts, with a second borrowed
where the nanoseconds do not reach; none of them falls below nought.
-/
namespace BookingRetry

namespace Span

variable {a b d t : Span}

theorem in_parts (a : Span) :
    a.nanos = a.seconds * nanosPerSecond + a.subsecond ∧ a.subsecond < nanosPerSecond :=
  ⟨(Nat.div_add_mod' a.nanos nanosPerSecond).symm, Nat.mod_lt _ (by decide)⟩

/-- The difference by seconds and nanoseconds, with a second borrowed where these do not reach. None
if a count would fall below nought. -/
def sub? (a b : Span) : Option Span :=
  if b.seconds ≤ a.seconds then
    if b.subsecond ≤ a.subsecond then
      some (ofParts (a.seconds - b.seconds) (a.subsecond - b.subsecond))
    else if 1 ≤ a.seconds - b.seconds then
      some (ofParts (a.seconds - b.seconds - 1) (a.subsecond + nanosPerSecond - b.subsecond))
    else none
  else none

theorem ofParts_eq_sub {seconds nanos : Nat}
    (same : seconds * nanosPerSecond + nanos = a.nanos - b.nanos) :
    ofParts seconds nanos = a.sub b := by
  refine ext_nanos ?_
  rw [sub_nanos, ← same]
  have inside := (a.sub b).in_range
  rw [sub_nanos, ← same] at inside
  exact Nat.min_eq_left inside

theorem sub?_eq (a b : Span) : a.sub? b = if b ≤ a then some (a.sub b) else none := by
  obtain ⟨whole, small⟩ := in_parts a
  obtain ⟨whole', small'⟩ := in_parts b
  unfold nanosPerSecond at whole small whole' small'
  have order := @le_iff_nanos b a
  unfold sub? nanosPerSecond
  split
  · -- The nanoseconds reach, or a second is borrowed, or none can be.
    split
    · have same : ofParts (a.seconds - b.seconds) (a.subsecond - b.subsecond) = a.sub b :=
        ofParts_eq_sub (by unfold nanosPerSecond; omega)
      rw [if_pos (order.mpr (by omega)), same]
    · split
      · have same : ofParts (a.seconds - b.seconds - 1) (a.subsecond + 1000000000 - b.subsecond) =
            a.sub b := ofParts_eq_sub (by unfold nanosPerSecond; omega)
        rw [if_pos (order.mpr (by omega)), same]
      · rw [if_neg (mt order.mp (by omega))]
  · rw [if_neg (mt order.mp (by omega))]

theorem add?_eq_some (h : a.add? d = some t) : t.nanos = a.nanos + d.nanos := by
  unfold add? at h
  split at h
  · cases h
    rfl
  · contradiction

end Span

namespace Pacing

variable {p : Pacing} {last now t : Span}

/-- `check` by differences that may fail. No time has passed where the clock stands before the last
call; the wait has to be a difference. -/
def checkGuarded? (p : Pacing) (now : Span) : Option Clearance :=
  match p.last with
  | none => some ⟨true, .zero⟩
  | some last =>
    let elapsed := (now.sub? last).getD .zero
    if p.minInterval ≤ elapsed then some ⟨true, .zero⟩
    else (p.minInterval.sub? elapsed).map fun wait => ⟨false, wait⟩

theorem check_guarded (p : Pacing) (now : Span) : p.checkGuarded? now = some (p.check now) := by
  unfold checkGuarded? check
  cases p.last with
  | none => rfl
  | some last =>
    have elapsed : (now.sub? last).getD .zero = now.sub last := by
      rw [Span.sub?_eq]
      split
      · rfl
      · rename_i behind
        refine Span.ext_nanos ?_
        rw [Span.le_iff_nanos] at behind
        rw [Span.sub_nanos]
        exact (Nat.sub_eq_zero_of_le (by omega)).symm
    dsimp only
    rw [elapsed]
    split
    · rfl
    · rename_i short
      rw [Span.le_iff_nanos] at short
      have within : now.sub last ≤ p.minInterval := Span.le_iff_nanos.mpr (by omega)
      rw [Span.sub?_eq, if_pos within]
      rfl

theorem wait_nanos (called : p.last = some last) (now : Span) :
    (p.check now).wait.nanos = p.minInterval.nanos - (now.nanos - last.nanos) := by
  cases free : (p.check now).free with
  | false => exact check_wait called free
  | true =>
    have enough := (check_free_iff called now).mp free
    have none : (p.check now).wait = .zero := by
      unfold check at free ⊢
      rw [called] at free ⊢
      dsimp only at free ⊢
      split at free
      · rename_i passed
        rw [if_pos passed]
      · contradiction
    rw [none]
    exact (Nat.sub_eq_zero_of_le enough).symm

/-- What a pacing answers at a time, if its last call ended at `last`. -/
structure WaitsRest (p : Pacing) (last now : Span) : Prop where
  guarded : p.checkGuarded? now = some (p.check now)
  free_iff : (p.check now).free = true ↔ (p.check now).wait = .zero
  busy : (p.check now).free = false →
    .zero < (p.check now).wait ∧ (p.check now).wait ≤ p.minInterval
  cleared_iff : last ≤ now → ∀ t, now ≤ t →
    ((p.check t).free = true ↔ (p.check now).wait ≤ t.sub now)
  slept_iff : last ≤ now → ∀ d t, now.add? d = some t →
    ((p.check t).free = true ↔ (p.check now).wait ≤ d)
  behind : now < last → (p.check now).wait = p.minInterval

theorem cleared_iff_nanos (called : p.last = some last) (after : last ≤ now) (later : now ≤ t) :
    (p.check t).free = true ↔ (p.check now).wait.nanos ≤ t.nanos - now.nanos := by
  rw [Span.le_iff_nanos] at after later
  rw [check_free_iff called, wait_nanos called]
  omega

theorem waitsRest (called : p.last = some last) (now : Span) : p.WaitsRest last now := by
  have free := check_free_iff called now
  have wait := wait_nanos called now
  refine
    { guarded := check_guarded p now
      free_iff := ⟨fun cleared => ?zero, fun zero => ?cleared⟩
      busy := fun busy => ?busy
      cleared_iff := fun after t later => cleared_iff_nanos called after later
      slept_iff := fun after d t slept => ?slept
      behind := fun before => ?behind }
  case zero =>
    refine Span.ext_nanos ?_
    rw [wait]
    exact Nat.sub_eq_zero_of_le (free.mp cleared)
  case cleared =>
    rw [zero] at wait
    exact free.mpr (Nat.le_of_sub_eq_zero wait.symm)
  case busy =>
    have short : ¬ p.minInterval.nanos ≤ now.nanos - last.nanos := by
      intro enough
      rw [free.mpr enough] at busy
      contradiction
    rw [Span.lt_iff_nanos, Span.le_iff_nanos, wait]
    exact ⟨Nat.sub_pos_of_lt (Nat.lt_of_not_le short), Nat.sub_le _ _⟩
  case slept =>
    have sum := Span.add?_eq_some slept
    rw [cleared_iff_nanos called after (Span.le_iff_nanos.mpr (by omega)), Span.le_iff_nanos, sum,
      Nat.add_sub_cancel_left]
  case behind =>
    rw [Span.lt_iff_nanos] at before
    refine Span.ext_nanos ?_
    rw [wait, Nat.sub_eq_zero_of_le (Nat.le_of_lt before), Nat.sub_zero]

theorem records_last (p : Pacing) (earlier : List Span) (last : Span) :
    (earlier ++ [last]).foldl record p = p.record last := by
  induction earlier generalizing p with
  | nil => rfl
  | cons t ts ih => exact ih (p.record t)

/-- After a call the wait is at every time exactly what remains of the least distance, and only the
last one of all calls before it matters. -/
theorem wait_is_rest (called : p.last = some last) :
    (∀ now, p.WaitsRest last now) ∧ ∀ (q : Pacing) (earlier : List Span),
      q.minInterval = p.minInterval → (earlier ++ [last]).foldl record q = p := by
  refine ⟨waitsRest called, ?_⟩
  intro q earlier same
  obtain ⟨minInterval, ended⟩ := p
  cases called
  rw [records_last, record, same]

def fractional : Pacing := ⟨.ofParts 1 500000000, some (.ofParts 2 750000000)⟩

theorem fractional_waits_rest : fractional.last = some (.ofParts 2 750000000) ∧
    (∀ now, fractional.WaitsRest (.ofParts 2 750000000) now) ∧
      ∀ (q : Pacing) (earlier : List Span), q.minInterval = fractional.minInterval →
        (earlier ++ [Span.ofParts 2 750000000]).foldl record q = fractional :=
  ⟨rfl, wait_is_rest rfl⟩

example : fractional.check (.ofParts 4 0) = ⟨false, .ofParts 0 250000000⟩ := by decide

end Pacing

end BookingRetry
