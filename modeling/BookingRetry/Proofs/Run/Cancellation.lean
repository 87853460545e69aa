import BookingRetry.Proofs.Run.Logging
import BookingRetry.Proofs.Run.Report

/-!
What becomes of a run whose token is cancelled. That can only happen before the run, in a wait or in
a call. A call is heard out and counts; after that the run makes for its end, and no way to the end
leads through another call.
-/
namespace BookingRetry

/-- How a run ends that was cancelled during the call with a given number. -/
def Verdict.lastOutcome (number : Nat) : Verdict → Outcome
  | .success detail => .success number detail
  | .fatal _ message => .fatalInput number message
  | .retryable _ _ => .interrupted number

namespace Run

def Phase.inCall : Phase → Bool
  | .going (.calling _) _ => true
  | _ => false

/-- From the `n`th step on the run makes no call, and it ends like this. -/
structure Ends (plan : Plan) (w : World) (before : Scene) (n : Nat)
    (calls : List (Candidate × Nat)) (attempts : List Attempt) (o : Outcome) : Prop where
  quiet : ∀ m, n ≤ m → (plan.run w m before).phase.inCall = false
  ends : ∃ limit r, (plan.run w limit before).phase = .finished r ∧
    (plan.run w limit before).scene.calls = calls ∧ r.attempts = attempts ∧ r.outcome = o

/-- How a run ends whose token becomes cancelled in the step after the `n`th. -/
def EndsCancelled (plan : Plan) (w : World) (before : Scene) (n : Nat) : Prop :=
  let s := (plan.run w n before).scene
  let count := (s.callsSince before).length
  match (plan.run w n before).phase with
  | .going (.waiting _) p => Ends plan w before n s.calls p.attempts (.interrupted count)
  | .going (.calling t) p =>
    let candidate := p.rotation.current
    let verdict := plan.markers.verdict (w.call s.calls.length s.now candidate).answer
    ∃ finishedAt, Ends plan w before (n + 1) (s.calls ++ [(candidate, count + 1)])
      (p.attempts ++ [p.attempt t finishedAt verdict]) (verdict.lastOutcome (count + 1))
  | _ => False

def Phase.suspended : Phase → Bool
  | .going (.waiting _) _ | .going (.calling _) _ => true
  | _ => false

variable {plan : Plan} {w : World} {before s : Scene} {stage : Stage} {p : Progress} {n : Nat}

/-! ### When the token can become cancelled -/

theorem field_move {α : Type} (field : Scene → α)
    (record : ∀ s level message, field (Scene.record w level message s).2 = field s)
    (close : ∀ s : Scene, field s.close.2 = field s) (read : ∀ s, field (Scene.read w s) = field s)
    {st st' : State} (move : Move plan w st st') (awake : st.phase.suspended = false) :
    field st'.scene = field st.scene := by
  have noted : ∀ level message next s, field (noting w level message next s).scene = field s := by
    intro level message next s
    rcases noting_cases w level message next s with ⟨_, eq⟩ | ⟨f, _, eq⟩ <;> rw [eq]
    · exact record s level message
    · exact record s level message
  have paused : ∀ d p s, field (pausing d p s).scene = field s := by
    intro d p s
    unfold pausing
    split
    · rfl
    · split <;> rfl
  cases move with
  | unlimited | interrupted | untallied | passGoesOn | wokenUnlimited | rests | stuck => rfl
  | inBudget | cleared | movedOn | wokenInTime => exact read _
  | spent | wrapped | tallied | late => exact (noted _ _ _ _).trans (read _)
  | exhausted => exact noted _ _ _ _
  | held | waits => exact (paused _ _ _).trans (read _)
  | @announced s p live =>
    rcases announce_cases w p s with ⟨_, eq⟩ | ⟨f, _, eq⟩ <;> rw [eq]
    · exact (read _).trans (record s _ _)
    · exact record s _ _
  | @closed s o attempts wraps startedAt =>
    have told := conclude_keeps field w o s record close
    rcases close_cases w o attempts wraps startedAt s with ⟨_, eq⟩ | ⟨f, _, eq⟩ <;> rw [eq]
    · exact (read _).trans told
    · exact told
  | answered | roused | slept => contradiction

theorem cancelled_move {st st' : State} (move : Move plan w st st')
    (awake : st.phase.suspended = false) : st'.scene.cancelled = st.scene.cancelled :=
  field_move Scene.cancelled (fun _ _ _ => rfl) (fun _ => rfl) (fun _ => rfl) move awake

theorem suspended_of_firing (live : (plan.run w n before).scene.cancelled = false)
    (fires : (plan.run w (n + 1) before).scene.cancelled = true) :
    (plan.run w n before).phase.suspended = true := by
  apply Classical.byContradiction
  intro awake
  have same := cancelled_move (step_moves plan w _) (by simpa using awake)
  rw [← Plan.run_succ, live, fires] at same
  contradiction

/-! ### How a run comes to its end -/

theorem Ends.earlier {calls : List (Candidate × Nat)} {attempts : List Attempt} {o : Outcome}
    (h : Ends plan w before (n + 1) calls attempts o)
    (resting : (plan.run w n before).phase.inCall = false) :
    Ends plan w before n calls attempts o := by
  refine ⟨?_, h.ends⟩
  intro m later
  rcases Nat.eq_or_lt_of_le later with rfl | after
  · exact resting
  · exact h.quiet m after

theorem next_eq {st : State} (here : plan.run w n before = st) :
    plan.run w (n + 1) before = plan.step w st := by
  rw [Plan.run_succ, here]

theorem noted (holds : plan.LogHolds w before) {level : Log.Level} {message : Text} {next : Phase}
    (noting : plan.run w n before = noting w level message next s) :
    ∃ s', plan.run w n before = ⟨s', next⟩ ∧ s'.cancelled = s.cancelled ∧ s'.calls = s.calls := by
  have sound := holds n
  rcases noting_cases w level message next s with ⟨_, eq⟩ | ⟨f, _, eq⟩
  · exact ⟨_, noting.trans eq, rfl, rfl⟩
  · rw [noting, eq] at sound
    contradiction

theorem ends_of_closing (holds : plan.LogHolds w before) {o : Outcome} {attempts : List Attempt}
    {wraps : Nat} {startedAt : Span}
    (here : plan.run w n before = ⟨s, .closing o attempts wraps startedAt⟩) :
    Ends plan w before n s.calls attempts o := by
  have next : plan.run w (n + 1) before = Plan.close w o attempts wraps startedAt s := next_eq here
  have concluded := holds n
  rw [here] at concluded
  obtain ⟨_, eq⟩ | ⟨f, failed, _⟩ := close_cases w o attempts wraps startedAt s
  · rw [eq] at next
    have ended : (plan.run w (n + 1) before).Over := by
      rw [next]
      exact Or.inl ⟨_, rfl⟩
    have ends : Ends plan w before (n + 1) s.calls attempts o := by
      constructor
      · intro m later
        rw [Plan.run_of_over later ended, next]
        rfl
      · refine ⟨n + 1, ?_⟩
        rw [next]
        exact ⟨_, rfl, conclude_calls w o s, rfl, rfl⟩
    refine ends.earlier ?_
    rw [here]
    rfl
  · have written : (Plan.conclude w o s).1 = .ok () := concluded
    rw [failed] at written
    contradiction

theorem ends_of_watched (holds : plan.LogHolds w before)
    (here : plan.run w n before = ⟨s, .going stage p⟩) (cancelled : s.cancelled = true)
    (watched : stage = .probing ∨ stage = .settling) :
    Ends plan w before n s.calls p.attempts (.interrupted p.count) := by
  have next : plan.run w (n + 1) before = ⟨s, p.interrupted⟩ := by
    rw [next_eq here]
    rcases watched with rfl | rfl <;> simp [Plan.step, cancelled]
  refine (ends_of_closing holds next).earlier ?_
  rw [here]
  rcases watched with rfl | rfl <;> rfl

theorem settling_after_tallying (holds : plan.LogHolds w before)
    (here : plan.run w n before = ⟨s, .going .tallying p⟩) :
    ∃ s', plan.run w (n + 1) before = ⟨s', .going .settling p.due⟩ ∧
      s'.cancelled = s.cancelled ∧ s'.calls = s.calls := by
  have next : plan.run w (n + 1) before = plan.tally w p s := next_eq here
  unfold Plan.tally at next
  dsimp only at next
  split at next
  · exact ⟨s, next, rfl, rfl⟩
  · exact noted (s := s.read w) holds next

theorem ends_of_tallying (holds : plan.LogHolds w before)
    (here : plan.run w n before = ⟨s, .going .tallying p⟩) (cancelled : s.cancelled = true) :
    Ends plan w before n s.calls p.attempts (.interrupted p.count) := by
  obtain ⟨s', next, same, calls⟩ := settling_after_tallying holds here
  have ends := ends_of_watched holds next (same.trans cancelled) (Or.inr rfl)
  rw [← calls]
  refine Ends.earlier ends ?_
  rw [here]
  rfl

theorem ends_of_following (holds : plan.LogHolds w before) {verdict : Verdict} {number : Nat}
    (count : p.count = number) (here : plan.run w n before = ⟨s, p.following number verdict⟩)
    (cancelled : s.cancelled = true) :
    Ends plan w before n s.calls p.attempts (verdict.lastOutcome number) := by
  cases verdict with
  | success detail => exact ends_of_closing holds here
  | fatal kind message => exact ends_of_closing holds here
  | retryable kind message =>
    have ends := ends_of_tallying (p := p.failed kind) holds here cancelled
    rwa [Progress.failed_attempts, Progress.failed_count, count] at ends

/-! ### The three moments -/

theorem budget_early (w : World) (p : Progress) (s : Scene)
    (early : ∀ d, p.deadline = some d → (s.read w).now < d) :
    ∃ s', Plan.budget w p s = ⟨s', .going .probing p⟩ ∧ s'.cancelled = s.cancelled ∧
      s'.calls = s.calls := by
  unfold Plan.budget
  cases bound : p.deadline with
  | none => exact ⟨s, rfl, rfl, rfl⟩
  | some d => exact ⟨s.read w, if_pos (early d bound), rfl, rfl⟩

theorem probing_after_start (holds : plan.LogHolds w before) (somebody : plan.candidates ≠ [])
    (still : w.Still)
    (budget : plan.settings.retry = true → before.now < before.now.add plan.settings.timeout) :
    ∃ s s' p, plan.run w 0 before = ⟨s, .going .budgeting p⟩ ∧
      plan.run w 1 before = ⟨s', .going .probing p⟩ ∧ s'.cancelled = before.cancelled ∧
      s'.calls = before.calls ∧ p.attempts = [] := by
  have sound := holds 0
  rcases start_cases plan w before with ⟨nobody, _⟩ | ⟨rotation, _, ⟨_, eq⟩ | ⟨f, _, eq⟩⟩
  · exact absurd nobody somebody
  · have here : plan.run w 0 before = _ := eq
    have early : ∀ d, (plan.opening rotation (before.read w).now).deadline = some d →
        (Scene.read w ((before.read w).header w plan.header).2).now < d := by
      intro d bounded
      have now : (Scene.read w ((before.read w).header w plan.header).2).now = before.now :=
        (read_still still _).trans (read_still still before)
      cases retry : plan.settings.retry with
      | false => simp [Plan.opening, retry] at bounded
      | true =>
        simp only [Plan.opening, retry, if_true, Option.some.injEq] at bounded
        rw [now, ← bounded, read_still still]
        exact budget retry
    obtain ⟨s', next, same, calls⟩ := budget_early w _ _ early
    exact ⟨_, s', _, here, (next_eq here).trans next, same, calls, rfl⟩
  · have failed : plan.run w 0 before = _ := eq
    rw [failed] at sound
    contradiction

theorem ends_before (holds : plan.LogHolds w before) (somebody : plan.candidates ≠ [])
    (still : w.Still)
    (budget : plan.settings.retry = true → before.now < before.now.add plan.settings.timeout)
    (cancelled : before.cancelled = true) :
    Ends plan w before 0 before.calls [] (.interrupted 0) := by
  obtain ⟨s, s', p, here, next, same, calls, none⟩ :=
    probing_after_start holds somebody still budget
  have ends := ends_of_watched holds next (same.trans cancelled) (Or.inl rfl)
  rw [calls, Progress.count, none] at ends
  refine Ends.earlier ends ?_
  rw [here]
  rfl

theorem ends_waiting (holds : plan.LogHolds w before) {d : Span}
    (here : plan.run w n before = ⟨s, .going (.waiting d) p⟩) (live : s.cancelled = false)
    (fires : (plan.run w (n + 1) before).scene.cancelled = true) :
    Ends plan w before n s.calls p.attempts (.interrupted p.count) := by
  have next : plan.run w (n + 1) before =
      Plan.slept d (w.sleep s.sleeps.length s.now d) p s := next_eq here
  have roused : (w.sleep s.sleeps.length s.now d).cancels = true := by
    rw [next] at fires
    unfold Plan.slept at fires
    dsimp only at fires
    split at fires
    · assumption
    · simpa [Scene.after, live] using fires
  have closing : plan.run w (n + 1) before =
      ⟨s.rested d (w.sleep s.sleeps.length s.now d), p.interrupted⟩ := by
    rw [next]
    simp [Plan.slept, roused, Scene.rested]
  refine (ends_of_closing holds closing).earlier ?_
  rw [here]
  rfl

theorem ends_calling (holds : plan.LogHolds w before) {t : Span}
    (here : plan.run w n before = ⟨s, .going (.calling t) p⟩)
    (fires : (plan.run w (n + 1) before).scene.cancelled = true) :
    let verdict :=
      plan.markers.verdict (w.call s.calls.length s.now p.rotation.current).answer
    ∃ finishedAt, Ends plan w before (n + 1) (s.calls ++ [(p.rotation.current, p.count + 1)])
      (p.attempts ++ [p.attempt t finishedAt verdict]) (verdict.lastOutcome (p.count + 1)) := by
  intro verdict
  have next : plan.run w (n + 1) before = plan.answered w t _ p s := next_eq here
  rw [answered_eq_noting] at next
  obtain ⟨s', told, same, calls⟩ := noted holds next
  rw [told] at fires
  have ends := ends_of_following holds (Progress.count_kept _ _) told fires
  rw [calls] at ends
  exact ⟨_, ends⟩

/-- A run over some candidates, with time ahead of it and a log that holds, makes no call after its
token became cancelled. If that was before the run or in a wait, it ends as interrupted after the
calls made; if it was in a call, that call counts, and its verdict comes first. -/
theorem run_heeds_cancellation (somebody : plan.candidates ≠ []) (still : w.Still)
    (budget : plan.settings.retry = true → before.now < before.now.add plan.settings.timeout)
    (holds : plan.LogHolds w before) :
    (before.cancelled = true → Ends plan w before 0 before.calls [] (.interrupted 0)) ∧
      ∀ n, (plan.run w n before).scene.cancelled = false →
        (plan.run w (n + 1) before).scene.cancelled = true → EndsCancelled plan w before n := by
  constructor
  · exact ends_before holds somebody still budget
  · intro n live fires
    have accounted : Accounted plan w before (plan.run w n before) :=
      Plan.run_keeps (accounted_start plan w before) (fun _ _ => accounted_move) n
    have asleep := suspended_of_firing live fires
    unfold EndsCancelled
    cases here : plan.run w n before with
    | mk s phase =>
      rw [here] at accounted asleep live
      cases phase with
      | going stage p =>
        have count : (s.callsSince before).length = p.count := accounted.account.callsSince_length
        cases stage with
        | waiting d =>
          show Ends plan w before n s.calls p.attempts (.interrupted (s.callsSince before).length)
          rw [count]
          exact ends_waiting holds here live fires
        | calling t =>
          dsimp only
          rw [count]
          exact ends_calling holds here fires
        | _ => contradiction
      | _ => contradiction

def interruptedWorld : World :=
  { rehearsalWorld with
    call := fun k _ _ =>
      { answer := .failed (lit "Sold out"), latency := .ofSeconds 1, cancels := k = 1 } }

theorem rehearsal_heeds_cancellation :
    (rehearsal.settings.retry = true → Span.zero < Span.zero.add rehearsal.settings.timeout) ∧
    (rehearsal.run interruptedWorld 13 {}).scene.cancelled = false ∧
    (rehearsal.run interruptedWorld 14 {}).scene.cancelled = true ∧
    EndsCancelled rehearsal interruptedWorld {} 13 := by
  have holds : rehearsal.LogHolds interruptedWorld {} :=
    logHolds_of_sound ⟨fun _ _ _ => rfl, fun _ _ _ => rfl⟩ ⟨rfl, fun _ => rfl, rfl⟩
  have budget : rehearsal.settings.retry = true →
      Span.zero < Span.zero.add rehearsal.settings.timeout := fun _ => by decide
  have heeds := run_heeds_cancellation (by decide) (fun _ => rfl) budget holds
  exact ⟨budget, rfl, rfl, heeds.2 13 rfl rfl⟩

end Run

end BookingRetry
