import BookingRetry.Proofs.Run.Logging
import BookingRetry.Proofs.Run.Report
import BookingRetry.Proofs.Run.Schedule

/-!
On a simulated clock a run comes to its end. What is left of it is counted in calls first, then in
nanoseconds to the next start, then in stages; every step takes something away.
-/
namespace BookingRetry.Run

def Stage.rank : Stage → Nat
  | .budgeting => 9
  | .tallying => 8
  | .settling => 7
  | .woken => 6
  | .probing => 5
  | .waiting _ => 4
  | .starting => 3
  | .calling _ => 2

namespace Plan

section Remaining

variable (plan : Plan) (turns : Nat → Turn) (entered : Nat)

def callBound : Nat :=
  if plan.settings.retry then plan.lastMoment entered else plan.candidates.length

/-- What is left after so many attempts at a time, apart from the stages in between. -/
def distance (count now : Nat) : Nat :=
  (plan.callBound entered - count) * (4 * plan.gap + 8) +
    4 * (plan.startOf turns entered count - now)

def remaining (st : State) : Nat :=
  match st.phase with
  | .going stage p => plan.distance turns entered p.count st.scene.now.nanos + stage.rank
  | .closing .. => 1
  | _ => 0

end Remaining

end Plan

variable {plan : Plan} {turns : Nat → Turn} {entered : Nat}

theorem rank_ge_two (stage : Stage) : 2 ≤ stage.rank := by
  cases stage <;> simp [Stage.rank]

theorem distance_answered {count : Nat} (bound : count < plan.callBound entered) :
    plan.distance turns entered (count + 1) (plan.endOf turns entered count) + 8 ≤
      plan.distance turns entered count (plan.startOf turns entered count) := by
  obtain ⟨more, left⟩ : ∃ more, plan.callBound entered - count = more + 1 :=
    ⟨plan.callBound entered - count - 1, by omega⟩
  have next : plan.callBound entered - (count + 1) = more := by omega
  have gap : plan.startOf turns entered (count + 1) =
      plan.endOf turns entered count + plan.gap := startOf_after plan turns entered (Nat.succ_pos _)
  unfold Plan.distance
  rw [left, next, gap, Nat.add_mul]
  omega

theorem distance_slept {count now d : Nat} (some : 0 < d)
    (inside : now + d ≤ plan.startOf turns entered count) :
    plan.distance turns entered count (now + d) + 4 ≤ plan.distance turns entered count now := by
  unfold Plan.distance
  omega

theorem remaining_noting {w : World} {level : Log.Level} {message : Text} {next : Phase} {s : Scene}
    {most : Nat} (some : 0 < most)
    (h : ∀ s', s'.now = s.now → plan.remaining turns entered ⟨s', next⟩ < most) :
    plan.remaining turns entered (noting w level message next s) < most :=
  noting_keeps (P := fun st => plan.remaining turns entered st < most) (fun _ _ => some)
    fun s' now _ _ => h s' now

theorem closing_remains {s s' : Scene} {stage : Stage} {p q : Progress} {o : Outcome} :
    plan.remaining turns entered ⟨s', q.closing o⟩ <
      plan.remaining turns entered ⟨s, .going stage p⟩ := by
  have stages := rank_ge_two stage
  show 1 < plan.distance turns entered p.count s.now.nanos + stage.rank
  omega

theorem onward_remains {s s' : Scene} {stage next : Stage} {p q : Progress}
    (lower : next.rank < stage.rank) (now : s'.now = s.now) (count : q.count = p.count) :
    plan.remaining turns entered ⟨s', .going next q⟩ <
      plan.remaining turns entered ⟨s, .going stage p⟩ := by
  simp only [Plan.remaining, now, count]
  omega

theorem pausing_remains {s s' : Scene} {stage : Stage} {p : Progress} {d : Span}
    (live : s'.cancelled = false) (now : s'.now = s.now)
    (lower : (Stage.waiting d).rank < stage.rank)
    (zero : d.nanos = 0 → Stage.woken.rank < stage.rank) :
    plan.remaining turns entered (pausing d p s') <
      plan.remaining turns entered ⟨s, .going stage p⟩ := by
  rcases pausing_cases d p live with ⟨none, eq⟩ | ⟨_, eq⟩ <;> rw [eq]
  · exact onward_remains (zero none) now rfl
  · exact onward_remains lower now rfl

section Simulated

variable {script : Nat → Turn} {stamp : Nat → Stamp} {before : Scene}

theorem below_callBound {s : Scene} {t : Span} {p : Progress}
    (rests : plan.settings.retry = true → 0 < plan.gap)
    (accounted : Underway plan (.simulated script stamp) before s (.calling t) p)
    (h : OnTime plan (before.turns script) before.now s (.calling t) p) :
    p.count < plan.callBound before.now.nanos := by
  unfold Plan.callBound
  cases retry : plan.settings.retry with
  | false => exact accounted.pass_open rfl retry
  | true =>
    have ahead := h.ahead retry rfl
    have starts := h.shows.1
    have count := le_startOf plan (before.turns script) before.now.nanos (rests retry) p.count
    simp only [if_true]
    omega

theorem remaining_move {st st' : State} (move : Move plan (.simulated script stamp) st st')
    (rests : plan.settings.retry = true → 0 < plan.gap)
    (accounted : Accounted plan (.simulated script stamp) before st)
    (inRange : st.ClockInRange (.simulated script stamp))
    (h : Scheduled plan (before.turns script) before.now st) (going : ¬ st.Over) :
    plan.remaining (before.turns script) before.now.nanos st' <
      plan.remaining (before.turns script) before.now.nanos st := by
  have some : 0 < plan.remaining (before.turns script) before.now.nanos st := by
    obtain ⟨s, phase⟩ := st
    cases phase with
    | going stage p =>
      have stages := rank_ge_two stage
      show 0 < _ + stage.rank
      omega
    | closing => exact Nat.one_pos
    | finished r => exact absurd (Or.inl ⟨r, rfl⟩) going
    | failed f => exact absurd (Or.inr ⟨f, rfl⟩) going
  cases move with
  | unlimited unbounded => exact onward_remains (by decide) rfl rfl
  | @inBudget s p d bounded early => exact onward_remains (by decide) (read_simulated s) rfl
  | spent bounded late => exact remaining_noting some fun s' _ => closing_remains
  | interrupted cancelled watched => exact closing_remains
  | @cleared s p live free still => exact onward_remains (by decide) (read_simulated s) rfl
  | @movedOn s p live free due inside => exact onward_remains (by decide) (read_simulated s) rfl
  | @wrapped s p live free due last =>
    refine remaining_noting some fun s' now => ?_
    exact onward_remains (by decide) (now.trans (read_simulated s)) rfl
  | @held s p live busy =>
    rw [read_simulated] at busy ⊢
    have positive : 0 < (p.pacing.check s.now).wait.nanos := (h.wait_of_busy busy).2.1
    refine pausing_remains live (read_simulated s) (by decide : 4 < 5) ?_
    intro zero
    omega
  | @announced s p live =>
    rcases announce_cases (.simulated script stamp) p s with ⟨_, eq⟩ | ⟨f, _, eq⟩ <;> rw [eq]
    · exact onward_remains (by decide : 2 < 3) (read_simulated _) rfl
    · exact some
  | @answered s p startedAt reply verdict heard replied judged passed =>
    have ended : heard.now.nanos = plan.endOf (before.turns script) before.now.nanos p.count := by
      rw [passed, replied]
      exact h.ended accounted.account inRange
    refine remaining_noting some fun s' now => ?_
    cases verdict with
    | success | fatal => exact closing_remains
    | retryable kind message =>
      -- One call fewer is left, which pays for the stages up to the next one.
      have called := @distance_answered plan (before.turns script) before.now.nanos p.count
        (below_callBound rests accounted h)
      have starts : s.now.nanos = plan.startOf (before.turns script) before.now.nanos p.count :=
        h.shows.1
      rw [← ended, ← now, ← starts] at called
      have count := Progress.count_kept p (p.attempt startedAt heard.now (.retryable kind message))
      simp only [Plan.remaining, Progress.following, Progress.failed_count, Stage.rank, count]
      omega
  | untallied => exact onward_remains (by decide) rfl rfl
  | @tallied s p =>
    refine remaining_noting some fun s' now => ?_
    exact onward_remains (by decide) (now.trans (read_simulated s)) rfl
  | exhausted live unbounded last => exact remaining_noting some fun s' _ => closing_remains
  | passGoesOn live unbounded inside => exact onward_remains (by decide) rfl rfl
  | @waits s p d live bounded early =>
    exact pausing_remains live (read_simulated s) (by decide : 4 < 7) fun _ => by decide
  | late bounded late checked => exact remaining_noting some fun s' _ => closing_remains
  | roused napped cancels => exact closing_remains
  | @slept s p d nap napped whole =>
    obtain ⟨some, positive, now⟩ := h.shows
    have inside : s.now.nanos + d.nanos ≤
        plan.startOf (before.turns script) before.now.nanos p.count := by
      have pause := pause_le_gap plan
      have next := startOf_after plan (before.turns script) before.now.nanos some
      rcases now with starts | paused
      · exact Nat.le_of_eq starts
      · exact Nat.le_trans (Nat.le_of_eq paused) (by omega)
    have slept := distance_slept positive inside
    rw [← rested_nanos inRange, ← napped] at slept
    simp only [Plan.remaining, Stage.rank]
    omega
  | wokenUnlimited unbounded => exact onward_remains (by decide) rfl rfl
  | @wokenInTime s p d bounded early => exact onward_remains (by decide) (read_simulated s) rfl
  | @closed s o attempts wraps startedAt =>
    rcases close_cases (.simulated script stamp) o attempts wraps startedAt s with
      ⟨_, eq⟩ | ⟨f, _, eq⟩ <;> rw [eq] <;> exact Nat.one_pos
  | rests => exact absurd (Or.inl ⟨_, rfl⟩) going
  | stuck => exact absurd (Or.inr ⟨_, rfl⟩) going

theorem scheduled_run (somebody : plan.candidates ≠ []) (live : before.cancelled = false)
    (inRange : ∀ n, (plan.run (.simulated script stamp) n before).ClockInRange
      (.simulated script stamp)) (n : Nat) :
    Accounted plan (.simulated script stamp) before (plan.run (.simulated script stamp) n before) ∧
      Scheduled plan (before.turns script) before.now
        (plan.run (.simulated script stamp) n before) := by
  induction n with
  | zero => exact ⟨accounted_start plan _ before, scheduled_start somebody live⟩
  | succ n ih =>
    obtain ⟨accounted, scheduled⟩ := ih
    have move := step_moves plan (.simulated script stamp)
      (plan.run (.simulated script stamp) n before)
    rw [← Plan.run_succ] at move
    exact ⟨accounted_move move accounted, scheduled_move move accounted (inRange n) scheduled⟩

/-- The report of a run by a script is that of its timetable. -/
structure KeepsTimetable (plan : Plan) (script : Nat → Turn) (before after : Scene)
    (r : RunReport) : Prop where
  startedAt_eq : r.startedAt = before.now
  calls_eq : (after.callsSince before).length = r.attempts.length
  times_eq : r.attempts.map Attempt.times =
    plan.timetable (before.turns script) before.now.nanos r.attempts.length
  ends : plan.EndsAfter (before.turns script) before.now.nanos r.attempts.length r.outcome

/-- A run over some candidates, by a script of answers and latencies, comes to its end and keeps its
timetable, if nothing cancels it, its log holds and the clock does not run out; one that retries
has to wait between its calls. -/
theorem run_keeps_timetable (somebody : plan.candidates ≠ [])
    (rests : plan.settings.retry = true → 0 < plan.gap) (live : before.cancelled = false)
    (holds : plan.LogHolds (.simulated script stamp) before)
    (inRange : ∀ n, (plan.run (.simulated script stamp) n before).ClockInRange
      (.simulated script stamp)) :
    ∃ limit r, (plan.run (.simulated script stamp) limit before).phase = .finished r ∧
      KeepsTimetable plan script before (plan.run (.simulated script stamp) limit before).scene
        r := by
  have kept := scheduled_run somebody live inRange
  have ends : ∃ limit, (plan.run (.simulated script stamp) limit before).Over :=
    ends_of_falling (plan.remaining (before.turns script) before.now.nanos) fun n going => by
      rw [Plan.run_succ]
      exact remaining_move (step_moves plan _ _) rests (kept n).1 (inRange n) (kept n).2 going
  obtain ⟨limit, ⟨r, finished⟩ | ⟨f, failed⟩⟩ := ends
  · have settled := settled_of_finished finished
    have scheduled := (kept limit).2
    unfold Scheduled at scheduled
    rw [finished] at scheduled
    obtain ⟨started, times, ends⟩ := scheduled
    exact ⟨limit, r, finished, started, settled.account.callsSince_length, times, ends⟩
  · have sound := holds limit
    rw [failed] at sound
    contradiction

def rehearsalScript (k : Nat) : Turn where
  answer := if k < 2 then .failed (lit "Sold out") else .reserved (lit "PNR-7")
  latency := .ofSeconds 1

theorem rehearsal_keeps_timetable :
    let w := World.simulated rehearsalScript fun _ => .epoch
    ∃ limit r, (rehearsal.run w limit {}).phase = .finished r ∧
      KeepsTimetable rehearsal rehearsalScript {} (rehearsal.run w limit {}).scene r := by
  intro w
  have ended : (rehearsal.run (.simulated rehearsalScript fun _ => .epoch) 40 {}).Over :=
    Or.inl ⟨_, rfl⟩
  have early : ∀ n < 40, (rehearsal.run w n {}).ClockInRange w := by decide +kernel
  have last : (rehearsal.run w 40 {}).ClockInRange w := by decide +kernel
  refine run_keeps_timetable (by decide) (by decide) rfl ?_ ?_
  · exact logHolds_of_sound ⟨fun _ _ _ => rfl, fun _ _ _ => rfl⟩ ⟨rfl, fun _ => rfl, rfl⟩
  · intro n
    rcases Nat.lt_or_ge n 40 with before | after
    · exact early n before
    · rw [Plan.run_of_over after ended]
      exact last

end Simulated

end BookingRetry.Run
