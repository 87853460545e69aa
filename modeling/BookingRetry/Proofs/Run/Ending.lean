import BookingRetry.Proofs.Run.Spacing

/-!
Why every run ends. Each step comes nearer to the end of a call or of a wait, and time passes before
the next call: in the call itself, in the wait behind it, or in the wait for clearance. So a run
that retries comes to its deadline, and a single pass to the end of its list.
-/
namespace BookingRetry.Run

def Progress.limit (p : Progress) : Nat :=
  match p.deadline with
  | none => maxNanos
  | some d => d.nanos

def Progress.ahead (p : Progress) : Nat :=
  match p.deadline with
  | none => p.rotation.size - p.rotation.index
  | some _ => 0

/-- Before the next call some time will have passed, or the pass will have moved on. -/
def Plan.rests (plan : Plan) (stage : Stage) (p : Progress) (now : Span) : Bool :=
  !(p.pacing.check now).free || p.deadline.isNone && p.moveOn ||
    (stage = .tallying || stage = .settling) &&
      (p.deadline.isNone || decide (0 < plan.settings.wait.nanos))

structure MovesOn (stage : Stage) (p : Progress) : Prop where
  inside : p.deadline = none → p.moveOn = true → stage ≠ .settling → p.rotation.atLast = false
  settled : stage = .settling → p.moveOn = true
  positive : ∀ d, stage = .waiting d → 0 < d.nanos

variable {plan : Plan} {w : World} {alarms : Nat → Bool} {before s s' : Scene}
  {stage next : Stage} {p p' : Progress} {st st' : State}

/-! ### What every move keeps -/

theorem MovesOn.onward (h : MovesOn stage p) (other : stage ≠ .settling) (again : next ≠ .settling)
    (positive : ∀ d, next = .waiting d → 0 < d.nanos) : MovesOn next p where
  inside unbounded due _ := h.inside unbounded due other
  settled here := absurd here again
  positive := positive

def Phase.MovesOn (phase : Phase) : Prop :=
  ∀ stage p, phase = .going stage p → Run.MovesOn stage p

end BookingRetry.Run
