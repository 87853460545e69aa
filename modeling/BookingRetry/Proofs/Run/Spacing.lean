import BookingRetry.Proofs.Run.Course
import BookingRetry.Proofs.Run.Report
import Mathlib.Data.List.Chain

/-!
How far apart the calls of a run are. The clock may run on between any two looks at it and a sleep
may end early, so the distance cannot come from the sleeps: it comes from the last clearance before
a call, and, for the wait of a run that retries, from the check of the deadline after each sleep.
-/
namespace BookingRetry

/-- One attempt is over before the other starts, and by so much at least. -/
structure Apart (least : Span) (a b : Attempt) : Prop where
  called : a.startedAt ≤ a.finishedAt
  followed : a.finishedAt ≤ b.startedAt
  distance : least ≤ b.startedAt.sub a.finishedAt
  starts : least ≤ b.startedAt.sub a.startedAt

theorem apart_of_nanos {least : Span} {a b : Attempt} (called : a.startedAt ≤ a.finishedAt)
    (later : a.finishedAt.nanos + least.nanos ≤ b.startedAt.nanos) : Apart least a b := by
  rw [Span.le_iff_nanos] at called
  constructor
  · exact called
  · rw [Span.le_iff_nanos]
    omega
  · rw [Span.le_iff_nanos, Span.sub_nanos]
    omega
  · rw [Span.le_iff_nanos, Span.sub_nanos]
    omega

namespace Run

/-- A sleep that is not broken off moves the clock on by what was asked for, or more. -/
def World.SleepsFully (w : World) : Prop :=
  ∀ k now d, (w.sleep k now d).cancels = false → d ≤ (w.sleep k now d).passed

/-- A distance that the waits alone keep: none at all, or that of a run which retries, if no sleep
is too short. -/
def Plan.Pauses (plan : Plan) (w : World) (pause : Span) : Prop :=
  pause = .zero ∨ plan.settings.retry = true ∧ w.SleepsFully ∧ pause = plan.settings.wait

/-- How far a stage is from the end of the last call, which was at `finished`. A sleep may have
brought the clock to its end. -/
def Stage.KeepsOff (interval pause finished now : Nat) : Stage → Prop
  | .budgeting => False
  | .tallying | .settling => finished ≤ now
  | .waiting d => finished ≤ now ∧ finished + pause ≤ now + d.nanos
  | .woken => min (finished + pause) maxNanos ≤ now
  | .probing => finished + pause ≤ now
  | .starting => finished + pause ≤ now ∧ finished + interval ≤ now
  | .calling t => finished + pause ≤ t.nanos ∧ finished + interval ≤ t.nanos

def Chained (plan : Plan) (pause : Span) (attempts : List Attempt) : Prop :=
  attempts.IsChain fun a b => Apart plan.settings.minInterval a b ∧ Apart pause a b

structure Paced (plan : Plan) (pause : Span) (s : Scene) (stage : Stage) (p : Progress) : Prop where
  interval_eq : p.pacing.minInterval = plan.settings.minInterval
  bounded_eq : p.deadline.isSome = plan.settings.retry
  chained : Chained plan pause p.attempts
  last : ∀ a ∈ p.attempts.getLast?, a.startedAt ≤ a.finishedAt ∧
    p.pacing.last = some a.finishedAt ∧
    stage.KeepsOff plan.settings.minInterval.nanos pause.nanos a.finishedAt.nanos s.now.nanos
  begun : ∀ t, stage = .calling t → t ≤ s.now

def Spaced (plan : Plan) (pause : Span) (st : State) : Prop :=
  match st.phase with
  | .going stage p => Paced plan pause st.scene stage p
  | .closing _ attempts _ _ => Chained plan pause attempts
  | .finished r => Chained plan pause r.attempts
  | .failed _ => True

variable {plan : Plan} {w : World} {pause : Span} {s s' : Scene} {stage : Stage} {p : Progress}

theorem read_later (w : World) (s : Scene) : s.now.nanos ≤ (s.read w).now.nanos :=
  Span.nanos_le_add _ _

theorem Plan.Pauses.single (h : plan.Pauses w pause) (single : plan.settings.retry = false) :
    pause.nanos = 0 := by
  rcases h with rfl | ⟨retries, _⟩
  · rfl
  · rw [single] at retries
    contradiction

theorem Plan.Pauses.le_wait (h : plan.Pauses w pause) :
    pause.nanos ≤ plan.settings.wait.nanos := by
  rcases h with rfl | ⟨_, _, rfl⟩
  · exact Nat.zero_le _
  · exact Nat.le_refl _

/-! ### What every move keeps -/

theorem Paced.onward (h : Paced plan pause s stage p) {next : Stage}
    (begun : ∀ t, next = .calling t → t ≤ s'.now)
    (keeps : ∀ a ∈ p.attempts.getLast?,
      stage.KeepsOff plan.settings.minInterval.nanos pause.nanos a.finishedAt.nanos s.now.nanos →
      next.KeepsOff plan.settings.minInterval.nanos pause.nanos a.finishedAt.nanos s'.now.nanos) :
    Paced plan pause s' next p :=
  { h with
    last := fun a member =>
      have last := h.last a member
      ⟨last.1, last.2.1, keeps a member last.2.2⟩
    begun := begun }

theorem Paced.moved (h : Paced plan pause s stage p) : Paced plan pause s stage p.moved :=
  { h with }

theorem Paced.single (h : Paced plan pause s stage p) (unbounded : p.deadline = none) :
    plan.settings.retry = false := by
  rw [← h.bounded_eq, unbounded]
  rfl

theorem Paced.starting (h : Paced plan pause s .probing p) (later : s.now.nanos ≤ s'.now.nanos)
    (free : (p.pacing.check s'.now).free = true) : Paced plan pause s' .starting p := by
  refine h.onward nofun ?_
  intro a member rested
  have rested : a.finishedAt.nanos + pause.nanos ≤ s.now.nanos := rested
  have enough := (Pacing.check_free_iff (h.last a member).2.1 s'.now).mp free
  rw [h.interval_eq] at enough
  constructor <;> omega

theorem Paced.settling (h : Paced plan pause s .tallying p)
    (later : s.now.nanos ≤ s'.now.nanos) : Paced plan pause s' .settling p.due := by
  have settling : Paced plan pause s' .settling p :=
    h.onward nofun fun a _ heard => Nat.le_trans heard later
  exact { settling with }

theorem Paced.pausing {d : Span} (h : Paced plan pause s stage p) (live : s'.cancelled = false)
    (rested : ∀ a ∈ p.attempts.getLast?, a.finishedAt.nanos ≤ s'.now.nanos ∧
      a.finishedAt.nanos + pause.nanos ≤ s'.now.nanos + d.nanos) :
    Spaced plan pause (pausing d p s') := by
  rcases pausing_cases d p live with ⟨zero, eq⟩ | ⟨_, eq⟩ <;> rw [eq]
  · refine h.onward nofun fun a member _ => ?_
    have rested := rested a member
    show min (a.finishedAt.nanos + pause.nanos) maxNanos ≤ s'.now.nanos
    omega
  · exact h.onward nofun fun a member _ => rested a member

theorem Paced.slept {d : Span} {nap : Nap} (h : Paced plan pause s (.waiting d) p)
    (pauses : plan.Pauses w pause) (napped : nap = w.sleep s.sleeps.length s.now d)
    (whole : nap.cancels = false) : Paced plan pause (s.rested d nap) .woken p := by
  refine h.onward nofun ?_
  rintro a - ⟨heard, rested⟩
  show min (a.finishedAt.nanos + pause.nanos) maxNanos ≤ (s.now.add nap.passed).nanos
  rw [Span.add_nanos]
  rcases pauses with rfl | ⟨_, fully, _⟩
  · have nothing : Span.zero.nanos = 0 := rfl
    omega
  · subst napped
    have passed := fully _ _ _ whole
    rw [Span.le_iff_nanos] at passed
    omega

theorem Paced.chained_kept {t finishedAt : Span} {verdict : Verdict}
    (h : Paced plan pause s (.calling t) p) :
    Chained plan pause (p.kept (p.attempt t finishedAt verdict)).attempts := by
  refine List.IsChain.append h.chained (.singleton _) ?_
  intro a member b same
  cases same
  obtain ⟨called, _, rested, cleared⟩ := h.last a member
  exact ⟨apart_of_nanos called cleared, apart_of_nanos called rested⟩

theorem Paced.answered {t finishedAt : Span} {verdict : Verdict}
    (h : Paced plan pause s (.calling t) p) (later : s.now ≤ finishedAt)
    (now : s'.now = finishedAt) (number : Nat) :
    Spaced plan pause
      ⟨s', (p.kept (p.attempt t finishedAt verdict)).following number verdict⟩ := by
  have chained : Chained plan pause (p.kept (p.attempt t finishedAt verdict)).attempts :=
    h.chained_kept
  cases verdict with
  | success | fatal => exact chained
  | retryable kind message =>
    refine ⟨h.interval_eq, h.bounded_eq, chained, ?_, nofun⟩
    intro a member
    rw [Progress.failed_attempts, Progress.kept, List.getLast?_concat] at member
    cases member
    exact ⟨Nat.le_trans (h.begun t rfl) later, rfl, Nat.le_of_eq (congrArg Span.nanos now.symm)⟩

theorem spaced_start (plan : Plan) (w : World) (pause : Span) (before : Scene) :
    Spaced plan pause (plan.start w before) := by
  rcases start_cases plan w before with ⟨_, eq⟩ | ⟨rotation, _, ⟨_, eq⟩ | ⟨f, _, eq⟩⟩ <;> rw [eq]
  · exact noting_keeps (fun _ _ => trivial) fun s' _ _ _ => .nil
  · exact
      { interval_eq := rfl
        bounded_eq := by cases retry : plan.settings.retry <;> simp [Plan.opening, retry]
        chained := .nil
        last := nofun
        begun := nofun }
  · exact trivial

theorem spaced_alarmed (st : State) (cancels : Bool) (h : Spaced plan pause st) :
    Spaced plan pause (st.alarmed cancels) := by
  obtain ⟨s, phase⟩ := st
  cases phase with
  | going stage p => exact { h with }
  | closing | finished | failed => exact h

theorem spaced_move {st st' : State} (pauses : plan.Pauses w pause) (move : Move plan w st st')
    (h : Spaced plan pause st) : Spaced plan pause st' := by
  cases move with
  | unlimited unbounded => exact h.onward nofun fun a _ => False.elim
  | inBudget bounded early => exact h.onward nofun fun a _ => False.elim
  | spent bounded late => exact noting_keeps (fun _ _ => trivial) fun s' _ _ _ => h.chained
  | interrupted cancelled watched => exact h.chained
  | @cleared s p live free still => exact h.starting (read_later w s) free
  | @movedOn s p live free due inside => exact (h.starting (read_later w s) free).moved
  | @wrapped s p live free due last =>
    refine noting_keeps (fun _ _ => trivial) fun s' now _ _ => (h.starting ?_ ?_).moved
    · rw [now]
      exact read_later w s
    · rwa [now]
  | @held s p live busy =>
    have later := read_later w s
    refine h.pausing live fun a member => ?_
    have rested : a.finishedAt.nanos + pause.nanos ≤ s.now.nanos := (h.last a member).2.2
    constructor <;> omega
  | @announced s p live =>
    rcases announce_cases w p s with ⟨_, eq⟩ | ⟨f, _, eq⟩ <;> rw [eq]
    · have later := read_later w (s.record w .info (startMessage (p.count + 1)
        p.rotation.current.label (p.rotation.index + 1) p.rotation.size)).2
      refine h.onward ?_ ?_
      · rintro t ⟨⟩
        exact Nat.le_refl _
      · intro a _ kept
        exact ⟨Nat.le_trans kept.1 later, Nat.le_trans kept.2 later⟩
    · exact trivial
  | @answered s p startedAt reply verdict heard replied judged passed =>
    refine noting_keeps (fun _ _ => trivial) fun s' now _ _ => h.answered ?_ now _
    rw [passed, Scene.heard_now]
    exact Nat.le_trans (Span.nanos_le_add _ _) (Span.nanos_le_add _ _)
  | untallied => exact h.settling (Nat.le_refl _)
  | @tallied s p =>
    refine noting_keeps (fun _ _ => trivial) fun s' now _ _ => h.settling ?_
    rw [now]
    exact read_later w s
  | exhausted live unbounded last =>
    exact noting_keeps (fun _ _ => trivial) fun s' _ _ _ => h.chained
  | @passGoesOn s p live unbounded inside =>
    have nothing := pauses.single (h.single unbounded)
    refine h.onward nofun fun a _ heard => ?_
    show a.finishedAt.nanos + pause.nanos ≤ s.now.nanos
    rw [nothing]
    exact heard
  | @waits s p d live bounded early =>
    have most := pauses.le_wait
    have later := read_later w s
    refine h.pausing live fun a member => ?_
    have heard : a.finishedAt.nanos ≤ s.now.nanos := (h.last a member).2.2
    constructor <;> omega
  | late bounded late checked => exact noting_keeps (fun _ _ => trivial) fun s' _ _ _ => h.chained
  | roused napped cancels => exact h.chained
  | slept napped whole => exact h.slept pauses napped whole
  | @wokenUnlimited s p unbounded =>
    have nothing := pauses.single (h.single unbounded)
    refine h.onward nofun fun a _ rested => ?_
    have rested : min (a.finishedAt.nanos + pause.nanos) maxNanos ≤ s.now.nanos := rested
    have inside := a.finishedAt.in_range
    show a.finishedAt.nanos + pause.nanos ≤ s.now.nanos
    omega
  | @wokenInTime s p d bounded early =>
    -- A deadline that is still ahead shows that the clock has not come to its end.
    have later := read_later w s
    have inside := d.in_range
    rw [Span.lt_iff_nanos] at early
    refine h.onward nofun fun a _ rested => ?_
    have rested : min (a.finishedAt.nanos + pause.nanos) maxNanos ≤ s.now.nanos := rested
    show a.finishedAt.nanos + pause.nanos ≤ (s.read w).now.nanos
    omega
  | @closed s o attempts wraps startedAt =>
    rcases close_cases w o attempts wraps startedAt s with ⟨_, eq⟩ | ⟨f, _, eq⟩ <;> rw [eq]
    · exact h
    · exact trivial
  | rests => exact h
  | stuck => exact h

variable {alarms : Nat → Bool} {before : Scene} {limit : Nat} {r : RunReport}

theorem finished_chained (pauses : plan.Pauses w pause)
    (finished : (plan.alarmedRun w alarms limit before).phase = .finished r) :
    Chained plan pause r.attempts := by
  have spaced : Spaced plan pause (plan.alarmedRun w alarms limit before) :=
    Plan.alarmedRun_keeps (spaced_start plan w pause before) spaced_alarmed
      (fun _ _ => spaced_move pauses) limit
  unfold Spaced at spaced
  rwa [finished] at spaced

/-- In a run that is finished, whenever its token became cancelled, an attempt is over before the
next one starts, by the least interval at the least, and by the wait if the run retries and no
sleep ends too early. -/
theorem finished_spaced
    (finished : (plan.alarmedRun w alarms limit before).phase = .finished r) :
    r.attempts.IsChain (Apart plan.settings.minInterval) ∧
      (plan.settings.retry = true → w.SleepsFully →
        r.attempts.IsChain (Apart plan.settings.wait)) := by
  constructor
  · exact (finished_chained (Or.inl rfl) finished).imp fun _ _ apart => apart.1
  · intro retries fully
    have chained := finished_chained (Or.inr ⟨retries, fully, rfl⟩) finished
    exact chained.imp fun _ _ apart => apart.2

theorem rehearsal_spaced :
    ∃ r, (rehearsal.alarmedRun rehearsalWorld (fun _ => false) 40 {}).phase = .finished r ∧
      r.attempts.length = 3 ∧ r.attempts.IsChain (Apart rehearsal.settings.minInterval) ∧
      rehearsal.settings.retry = true ∧ rehearsalWorld.SleepsFully ∧
      r.attempts.IsChain (Apart rehearsal.settings.wait) := by
  have fully : rehearsalWorld.SleepsFully := fun _ _ _ _ => Nat.le_refl _
  have finished : ∃ r, (rehearsal.alarmedRun rehearsalWorld (fun _ => false) 40 {}).phase =
      .finished r ∧ r.attempts.length = 3 := by
    rw [Plan.alarmedRun_silent]
    exact ⟨_, rfl, rfl⟩
  obtain ⟨r, finished, three⟩ := finished
  obtain ⟨interval, wait⟩ := finished_spaced finished
  exact ⟨r, finished, three, interval, rfl, fully, wait rfl fully⟩

end Run

end BookingRetry
