import BookingRetry.Proofs.Run.Moves
import BookingRetry.Proofs.Span

/-!
The course of a run: what a start and every step keep, every state of the run has; and a run whose
steps bring some measure down is over after a while.
-/
namespace BookingRetry.Run

def State.Over (st : State) : Prop :=
  (∃ r, st.phase = .finished r) ∨ ∃ f, st.phase = .failed f

instance (st : State) : Decidable st.Over :=
  match equality : st.phase with
  | .going _ _ => isFalse (by simp [State.Over, equality])
  | .closing _ _ _ _ => isFalse (by simp [State.Over, equality])
  | .finished r => isTrue (Or.inl ⟨r, equality⟩)
  | .failed f => isTrue (Or.inr ⟨f, equality⟩)

def State.alarmed (alarm : Bool) (st : State) : State :=
  { st with scene := { st.scene with cancelled := st.scene.cancelled || alarm } }

/-- A run whose token may become cancelled before any step, not only in calls and sleeps. -/
def Plan.alarmedRun (plan : Plan) (w : World) (alarms : Nat → Bool) : Nat → Scene → State
  | 0, s => plan.start w s
  | n + 1, s => plan.step w ((plan.alarmedRun w alarms n s).alarmed (alarms n))

/-- The clock moves in calls and sleeps only. -/
def World.Still (w : World) : Prop := ∀ k, w.drift k = .zero

theorem read_still {w : World} (still : w.Still) (s : Scene) : (s.read w).now = s.now := by
  rw [Scene.read_now, still, Span.add_zero]

/-- Nothing that a run does to its log fails: no record, and not the end of the log either. -/
def Plan.LogHolds (plan : Plan) (w : World) (s : Scene) : Prop :=
  ∀ n, match (plan.run w n s).phase with
    | .failed _ => False
    | .closing o _ _ _ => (Plan.conclude w o (plan.run w n s).scene).1 = .ok ()
    | _ => True

def Plan.LogHoldsUnder (plan : Plan) (w : World) (alarms : Nat → Bool) (s : Scene) : Prop :=
  ∀ n, (∀ f, (plan.alarmedRun w alarms n s).phase ≠ .failed f) ∧
    ∀ o attempts wraps startedAt,
      (plan.alarmedRun w alarms n s).phase = .closing o attempts wraps startedAt →
      (Plan.conclude w o ((plan.alarmedRun w alarms n s).alarmed (alarms n)).scene).1 = .ok ()

namespace Plan

theorem step_of_over (plan : Plan) (w : World) {st : State} (ended : st.Over) :
    plan.step w st = st := by
  obtain ⟨s, phase⟩ := st
  rcases ended with ⟨r, h⟩ | ⟨f, h⟩ <;> simp only at h <;> subst h <;> rfl

theorem steps_of_over (plan : Plan) (w : World) (n : Nat) {st : State} (ended : st.Over) :
    plan.steps w n st = st := by
  cases n with
  | zero => rfl
  | succ n => rcases ended with ⟨r, h⟩ | ⟨f, h⟩ <;> simp only [steps, h]

theorem steps_succ_first (plan : Plan) (w : World) (n : Nat) (st : State) :
    plan.steps w (n + 1) st = plan.steps w n (plan.step w st) := by
  by_cases ended : st.Over
  · rw [step_of_over plan w ended, steps_of_over plan w _ ended, steps_of_over plan w _ ended]
  · obtain ⟨s, phase⟩ := st
    cases phase with
    | finished r => exact absurd (Or.inl ⟨r, rfl⟩) ended
    | failed f => exact absurd (Or.inr ⟨f, rfl⟩) ended
    | going stage p => rfl
    | closing o attempts wraps startedAt => rfl

theorem steps_succ (plan : Plan) (w : World) (n : Nat) (st : State) :
    plan.steps w (n + 1) st = plan.step w (plan.steps w n st) := by
  induction n generalizing st with
  | zero => exact steps_succ_first plan w 0 st
  | succ n ih => rw [steps_succ_first, ih, ← steps_succ_first]

theorem run_succ (plan : Plan) (w : World) (n : Nat) (s : Scene) :
    plan.run w (n + 1) s = plan.step w (plan.run w n s) :=
  steps_succ plan w n (plan.start w s)

theorem run_keeps {plan : Plan} {w : World} {s : Scene} {P : State → Prop}
    (start : P (plan.start w s)) (step : ∀ st st', Move plan w st st' → P st → P st') (n : Nat) :
    P (plan.run w n s) := by
  induction n with
  | zero => exact start
  | succ n ih =>
    rw [run_succ]
    exact step _ _ (step_moves plan w _) ih

theorem alarmedRun_silent (plan : Plan) (w : World) (n : Nat) (s : Scene) :
    plan.alarmedRun w (fun _ => false) n s = plan.run w n s := by
  induction n with
  | zero => rfl
  | succ n ih =>
    rw [run_succ, alarmedRun, ih]
    simp [State.alarmed]

theorem alarmedRun_keeps {plan : Plan} {w : World} {alarms : Nat → Bool} {s : Scene}
    {P : State → Prop} (start : P (plan.start w s))
    (alarm : ∀ st cancels, P st → P (st.alarmed cancels))
    (step : ∀ st st', Move plan w st st' → P st → P st') (n : Nat) :
    P (plan.alarmedRun w alarms n s) := by
  induction n with
  | zero => exact start
  | succ n ih => exact step _ _ (step_moves plan w _) (alarm _ _ ih)

theorem alarmedRun_of_over {plan : Plan} {w : World} {alarms : Nat → Bool} {s : Scene} {n m : Nat}
    (later : n ≤ m) (ended : (plan.alarmedRun w alarms n s).Over) :
    ∃ cancels, plan.alarmedRun w alarms m s = (plan.alarmedRun w alarms n s).alarmed cancels := by
  obtain ⟨more, rfl⟩ := Nat.exists_eq_add_of_le later
  induction more with
  | zero => exact ⟨false, by simp [State.alarmed]⟩
  | succ more ih =>
    obtain ⟨cancels, same⟩ := ih (Nat.le_add_right n more)
    have stopped : ((plan.alarmedRun w alarms (n + more) s).alarmed (alarms (n + more))).Over := by
      rw [same]
      exact ended
    refine ⟨cancels || alarms (n + more), ?_⟩
    rw [← Nat.add_assoc, alarmedRun, step_of_over plan w stopped, same]
    simp [State.alarmed, Bool.or_assoc]

theorem run_of_over {plan : Plan} {w : World} {s : Scene} {n m : Nat} (later : n ≤ m)
    (ended : (plan.run w n s).Over) : plan.run w m s = plan.run w n s := by
  obtain ⟨more, rfl⟩ := Nat.exists_eq_add_of_le later
  induction more with
  | zero => rfl
  | succ more ih =>
    rw [← Nat.add_assoc, run_succ, ih (Nat.le_add_right n more), step_of_over plan w ended]

theorem LogHolds.closing {plan : Plan} {w : World} {s : Scene} (holds : plan.LogHolds w s) {n : Nat}
    {o : Outcome} {attempts : List Attempt} {wraps : Nat} {startedAt : Span}
    (closing : (plan.run w n s).phase = .closing o attempts wraps startedAt) :
    (conclude w o (plan.run w n s).scene).1 = .ok () := by
  have sound := holds n
  rwa [closing] at sound

end Plan

/-- A run ends if some measure falls at every step that is not the last. -/
theorem ends_of_falling {run : Nat → State} (measure : State → Nat)
    (falls : ∀ n, ¬ (run n).Over → measure (run (n + 1)) < measure (run n)) :
    ∃ n, (run n).Over := by
  apply Classical.byContradiction
  intro endless
  have going : ∀ n, ¬ (run n).Over := fun n ended => endless ⟨n, ended⟩
  -- Each step would take at least one from the measure at the start.
  have bound : ∀ n, measure (run n) + n ≤ measure (run 0) := by
    intro n
    induction n with
    | zero => exact Nat.le_refl _
    | succ n ih =>
      have fall := falls n (going n)
      omega
  have impossible := bound (measure (run 0) + 1)
  omega

end BookingRetry.Run
