import BookingRetry.Run.Step

/-!
The times at which a run makes its calls, by one recursion over the calls, and the call after which
the recursion does not go on.
-/
namespace BookingRetry.Run

structure Turn where
  answer : Answer
  latency : Span
  deriving DecidableEq, Repr

namespace Plan

section Timetable

variable (plan : Plan) (turns : Nat → Turn) (entered : Nat)

def gap : Nat :=
  if plan.settings.retry then max plan.settings.wait.nanos plan.settings.minInterval.nanos
  else plan.settings.minInterval.nanos

/-- The start of call `k`, counted from nought, in a run entered at a given time. -/
def startOf : Nat → Nat
  | 0 => entered
  | k + 1 => startOf k + (turns k).latency.nanos + plan.gap

def endOf (k : Nat) : Nat := plan.startOf turns entered k + (turns k).latency.nanos

def timetable (n : Nat) : List (Nat × Nat) :=
  (List.range n).map fun k => (plan.startOf turns entered k, plan.endOf turns entered k)

def lastMoment : Nat := min (entered + plan.settings.timeout.nanos) maxNanos

/-- How a run ends after call `k`; it does not if there is to be another call. -/
def endingAt? (k : Nat) : Option Outcome :=
  match plan.markers.verdict (turns k).answer with
  | .success detail => some (.success (k + 1) detail)
  | .fatal _ message => some (.fatalInput (k + 1) message)
  | .retryable _ _ =>
    if plan.settings.retry then
      if plan.endOf turns entered k + plan.gap < plan.lastMoment entered then none
      else some (.timeout (k + 1))
    else if k + 1 < plan.candidates.length then none
    else some (.exhausted plan.candidates.length)

def EndsAfter (n : Nat) (o : Outcome) : Prop :=
  if plan.settings.retry ∧ plan.lastMoment entered ≤ entered then n = 0 ∧ o = .timeout 0
  else 0 < n ∧ (∀ k, k + 1 < n → plan.endingAt? turns entered k = none) ∧
    plan.endingAt? turns entered (n - 1) = some o

def pause : Nat := if plan.settings.retry then plan.settings.wait.nanos else 0

end Timetable

end Plan

section Timetable

variable (plan : Plan) (turns : Nat → Turn) (entered : Nat)

theorem gap_eq_max : plan.gap = max plan.pause plan.settings.minInterval.nanos := by
  unfold Plan.gap Plan.pause
  split
  · rfl
  · exact (Nat.zero_max _).symm

theorem pause_le_gap : plan.pause ≤ plan.gap := by
  rw [gap_eq_max]
  exact Nat.le_max_left _ _

theorem startOf_after {n : Nat} (some : 0 < n) :
    plan.startOf turns entered n = plan.endOf turns entered (n - 1) + plan.gap := by
  cases n with
  | zero => contradiction
  | succ n => rfl

theorem le_startOf (rests : 0 < plan.gap) (n : Nat) : n ≤ plan.startOf turns entered n := by
  induction n with
  | zero => exact Nat.zero_le _
  | succ n ih =>
    simp only [Plan.startOf]
    omega

theorem timetable_succ (n : Nat) :
    plan.timetable turns entered (n + 1) =
      plan.timetable turns entered n ++
        [(plan.startOf turns entered n, plan.endOf turns entered n)] := by
  simp [Plan.timetable, List.range_succ]

variable {plan turns entered}

theorem endingAt?_success {k : Nat} {detail : Text}
    (judged : plan.markers.verdict (turns k).answer = .success detail) :
    plan.endingAt? turns entered k = some (.success (k + 1) detail) := by
  simp [Plan.endingAt?, judged]

theorem endingAt?_fatal {k : Nat} {kind : FailureKind} {message : Text}
    (judged : plan.markers.verdict (turns k).answer = .fatal kind message) :
    plan.endingAt? turns entered k = some (.fatalInput (k + 1) message) := by
  simp [Plan.endingAt?, judged]

theorem endingAt?_repeated {k : Nat} {kind : FailureKind} {message : Text}
    (judged : plan.markers.verdict (turns k).answer = .retryable kind message)
    (retries : plan.settings.retry = true) :
    plan.endingAt? turns entered k =
      if plan.startOf turns entered (k + 1) < plan.lastMoment entered then none
      else some (.timeout (k + 1)) := by
  unfold Plan.endingAt?
  rw [judged]
  simp only [retries, if_true]
  rfl

theorem endingAt?_passed {k : Nat} {kind : FailureKind} {message : Text}
    (judged : plan.markers.verdict (turns k).answer = .retryable kind message)
    (single : plan.settings.retry = false) :
    plan.endingAt? turns entered k =
      if k + 1 < plan.candidates.length then none
      else some (.exhausted plan.candidates.length) := by
  simp [Plan.endingAt?, judged, single]

theorem endsAfter_last {n : Nat} {o : Outcome}
    (begun : plan.settings.retry = true → entered < plan.lastMoment entered) (some : 0 < n)
    (goes : ∀ k, k + 1 < n → plan.endingAt? turns entered k = none)
    (ending : plan.endingAt? turns entered (n - 1) = .some o) :
    plan.EndsAfter turns entered n o := by
  unfold Plan.EndsAfter
  rw [if_neg]
  · exact ⟨some, goes, ending⟩
  · rintro ⟨retries, late⟩
    have early := begun retries
    omega

end Timetable

end BookingRetry.Run
