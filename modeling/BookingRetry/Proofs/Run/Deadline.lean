import BookingRetry.Proofs.Run.Report
import BookingRetry.Proofs.Run.Schedule

/-!
The deadline of a run that retries. A call starts without a look at the deadline, so that it starts
in time rests on every way to it having looked at the deadline since the clock last moved; and a run
that ends for want of time has read a clock that shows the deadline or more.
-/
namespace BookingRetry.Run

/-- What the deadline means for a report: no attempt starts behind it, on a clock that moves in
calls and sleeps only, and no run gives up before it. -/
structure KeepsDeadline (plan : Plan) (w : World) (entered : Span) (r : RunReport) : Prop where
  startedAt_eq : r.startedAt = entered
  early : w.Still → ∀ a ∈ r.attempts, a.startedAt < r.startedAt.add plan.settings.timeout
  late : ∀ n, r.outcome = .timeout n → r.startedAt.add plan.settings.timeout ≤ r.finishedAt
  spent : ∀ n, r.outcome = .timeout n →
    r.startedAt.nanos + plan.settings.timeout.nanos ≤ maxNanos →
      plan.settings.timeout ≤ r.finishedAt.sub r.startedAt

def AllBefore (deadline : Span) (attempts : List Attempt) : Prop :=
  ∀ a ∈ attempts, a.startedAt < deadline

/-- What is true of the deadline in a run under way. -/
structure Limited (plan : Plan) (w : World) (entered : Span) (s : Scene) (stage : Stage)
    (p : Progress) : Prop where
  startedAt_eq : p.startedAt = entered
  deadline_eq : p.deadline = some (entered.add plan.settings.timeout)
  early : w.Still → AllBefore (entered.add plan.settings.timeout) p.attempts
  ahead : w.Still → stage.checked = true → s.now < entered.add plan.settings.timeout
  begun : w.Still → ∀ t, stage = .calling t → t < entered.add plan.settings.timeout

structure LimitKept (plan : Plan) (w : World) (entered : Span) (o : Outcome)
    (attempts : List Attempt) (startedAt now : Span) : Prop where
  startedAt_eq : startedAt = entered
  early : w.Still → AllBefore (entered.add plan.settings.timeout) attempts
  late : ∀ n, o = .timeout n → entered.add plan.settings.timeout ≤ now

def InLimits (plan : Plan) (w : World) (entered : Span) (st : State) : Prop :=
  match st.phase with
  | .going stage p => Limited plan w entered st.scene stage p
  | .closing o attempts _ startedAt =>
    LimitKept plan w entered o attempts startedAt st.scene.now
  | .finished r => LimitKept plan w entered r.outcome r.attempts r.startedAt r.finishedAt
  | .failed _ => True

variable {plan : Plan} {w : World} {entered : Span} {s s' : Scene} {stage : Stage} {p : Progress}

theorem LimitKept.later {o : Outcome} {attempts : List Attempt} {startedAt now now' : Span}
    (h : LimitKept plan w entered o attempts startedAt now) (later : now ≤ now') :
    LimitKept plan w entered o attempts startedAt now' where
  startedAt_eq := h.startedAt_eq
  early := h.early
  late n timeout := Nat.le_trans (h.late n timeout) later

theorem Limited.onward (h : Limited plan w entered s stage p) {next : Stage}
    (ahead : w.Still → next.checked = true → s'.now < entered.add plan.settings.timeout)
    (begun : ∀ t, next = .calling t → t = s'.now) : Limited plan w entered s' next p where
  startedAt_eq := h.startedAt_eq
  deadline_eq := h.deadline_eq
  early := h.early
  ahead := ahead
  begun := by
    rintro still t rfl
    rw [begun t rfl]
    exact ahead still rfl

theorem Limited.moved (h : Limited plan w entered s stage p) :
    Limited plan w entered s stage p.moved :=
  { h with }

theorem Limited.due (h : Limited plan w entered s stage p) : Limited plan w entered s stage p.due :=
  { h with }

theorem Limited.bound_eq (h : Limited plan w entered s stage p) {d : Span}
    (bounded : p.deadline = some d) : d = entered.add plan.settings.timeout :=
  Option.some.inj (bounded.symm.trans h.deadline_eq)

theorem Limited.unbounded {P : Prop} (h : Limited plan w entered s stage p)
    (unbounded : p.deadline = none) : P := by
  rw [h.deadline_eq] at unbounded
  contradiction

theorem Limited.closing (h : Limited plan w entered s stage p) {o : Outcome}
    (other : ∀ n, o ≠ .timeout n) (now : Span) :
    LimitKept plan w entered o p.attempts p.startedAt now where
  startedAt_eq := h.startedAt_eq
  early := h.early
  late n timeout := absurd timeout (other n)

theorem Limited.interrupted (h : Limited plan w entered s stage p) :
    InLimits plan w entered ⟨s', p.interrupted⟩ := by
  have kept : LimitKept plan w entered (.interrupted p.count) p.attempts p.startedAt s'.now :=
    h.closing (o := .interrupted p.count) (fun _ => nofun) s'.now
  exact kept

theorem Limited.timeout (h : Limited plan w entered s stage p) {d now : Span} {o : Outcome}
    (bounded : p.deadline = some d) (late : ¬ now < d) :
    LimitKept plan w entered o p.attempts p.startedAt now where
  startedAt_eq := h.startedAt_eq
  early := h.early
  late _ _ := by
    rw [← h.bound_eq bounded]
    exact Nat.le_of_not_lt late

theorem Limited.pausing {d : Span} (h : Limited plan w entered s stage p)
    (live : s'.cancelled = false) : InLimits plan w entered (pausing d p s') := by
  rcases pausing_cases d p live with ⟨_, eq⟩ | ⟨_, eq⟩ <;> rw [eq]
  · exact h.onward nofun nofun
  · exact h.onward nofun nofun

theorem Limited.starting (h : Limited plan w entered s .probing p)
    (now : w.Still → s'.now = s.now) : Limited plan w entered s' .starting p := by
  refine h.onward ?_ nofun
  intro still _
  rw [now still]
  exact h.ahead still rfl

theorem Limited.probing {d : Span} (h : Limited plan w entered s stage p)
    (bounded : p.deadline = some d) (early : s'.now < d) :
    Limited plan w entered s' .probing p := by
  refine h.onward ?_ nofun
  intro _ _
  rw [← h.bound_eq bounded]
  exact early

theorem Limited.early_kept {t finishedAt : Span} {verdict : Verdict}
    (h : Limited plan w entered s (.calling t) p) (still : w.Still) :
    AllBefore (entered.add plan.settings.timeout)
      (p.kept (p.attempt t finishedAt verdict)).attempts := by
  intro a member
  rcases List.mem_append.mp member with old | new
  · exact h.early still a old
  · rw [List.mem_singleton.mp new]
    exact h.begun still t rfl

theorem Limited.answered {t finishedAt : Span} {verdict : Verdict}
    (h : Limited plan w entered s (.calling t) p) (number : Nat) :
    InLimits plan w entered
      ⟨s', (p.kept (p.attempt t finishedAt verdict)).following number verdict⟩ := by
  have tallying : Limited plan w entered s' .tallying (p.kept (p.attempt t finishedAt verdict)) :=
    { startedAt_eq := h.startedAt_eq
      deadline_eq := h.deadline_eq
      early := h.early_kept
      ahead := nofun
      begun := nofun }
  cases verdict with
  | success detail => exact tallying.closing (o := .success number detail) (fun _ => nofun) s'.now
  | fatal kind message =>
    exact tallying.closing (o := .fatalInput number message) (fun _ => nofun) s'.now
  | retryable => exact { tallying with }

theorem inLimits_start (retries : plan.settings.retry = true) (before : Scene) :
    InLimits plan w (before.read w).now (plan.start w before) := by
  rcases start_cases plan w before with ⟨_, eq⟩ | ⟨rotation, _, ⟨_, eq⟩ | ⟨f, _, eq⟩⟩ <;> rw [eq]
  · refine noting_keeps (fun _ _ => trivial) ?_
    intro s' _ _ _
    have kept : LimitKept plan w (before.read w).now (.fatalInput 0 noCandidates) []
        (before.read w).now s'.now := ⟨rfl, fun _ => List.forall_mem_nil _, nofun⟩
    exact kept
  · exact
      { startedAt_eq := rfl
        deadline_eq := by simp [Plan.opening, retries]
        early := fun _ => List.forall_mem_nil _
        ahead := nofun
        begun := nofun }
  · exact trivial

theorem inLimits_alarmed (st : State) (cancels : Bool) (h : InLimits plan w entered st) :
    InLimits plan w entered (st.alarmed cancels) := by
  obtain ⟨s, phase⟩ := st
  cases phase with
  | going stage p => exact { h with }
  | closing | finished | failed => exact h

theorem inLimits_move {st st' : State} (move : Move plan w st st')
    (h : InLimits plan w entered st) : InLimits plan w entered st' := by
  cases move with
  | unlimited unbounded => exact h.unbounded unbounded
  | inBudget bounded early => exact h.probing bounded early
  | spent bounded late | late bounded late =>
    refine noting_keeps (fun _ _ => trivial) ?_
    intro s' now _ _
    exact h.timeout bounded (by rwa [now])
  | interrupted cancelled watched => exact h.interrupted
  | @cleared s p live free still => exact Limited.starting h fun still => read_still still s
  | @movedOn s p live free due inside =>
    have starting : Limited plan w entered (s.read w) .starting p :=
      Limited.starting h fun still => read_still still s
    exact starting.moved
  | @wrapped s p live free due last =>
    refine noting_keeps (fun _ _ => trivial) ?_
    intro s' now _ _
    have starting : Limited plan w entered s' .starting p :=
      Limited.starting h fun still => now.trans (read_still still s)
    exact starting.moved
  | held live busy => exact h.pausing live
  | @announced s p live =>
    rcases announce_cases w p s with ⟨_, eq⟩ | ⟨f, _, eq⟩ <;> rw [eq]
    · refine h.onward ?_ ?_
      · intro still _
        rw [read_still still]
        exact h.ahead still rfl
      · rintro t ⟨⟩
        rfl
    · exact trivial
  | answered replied judged passed =>
    refine noting_keeps (fun _ _ => trivial) ?_
    intro s' _ _ _
    exact h.answered _
  | @untallied s p =>
    have settling : Limited plan w entered s .settling p := h.onward nofun nofun
    exact settling.due
  | @tallied s p =>
    refine noting_keeps (fun _ _ => trivial) ?_
    intro s' _ _ _
    have settling : Limited plan w entered s' .settling p := h.onward nofun nofun
    exact settling.due
  | exhausted live unbounded last => exact h.unbounded unbounded
  | passGoesOn live unbounded inside => exact h.unbounded unbounded
  | waits live bounded early => exact h.pausing live
  | roused napped cancels => exact h.interrupted
  | slept napped whole => exact h.onward nofun nofun
  | wokenUnlimited unbounded => exact h.unbounded unbounded
  | wokenInTime bounded early => exact h.probing bounded early
  | @closed s o attempts wraps startedAt =>
    rcases close_cases w o attempts wraps startedAt s with ⟨_, eq⟩ | ⟨f, _, eq⟩ <;> rw [eq]
    · have h : LimitKept plan w entered o attempts startedAt s.now := h
      refine h.later ?_
      rw [Scene.read_now, conclude_now]
      exact Span.nanos_le_add _ _
    · exact trivial
  | rests => exact h
  | stuck => exact h

variable {alarms : Nat → Bool} {before : Scene} {limit : Nat} {r : RunReport}

/-- A run that retries keeps its deadline, whatever it meets and whenever its token became
cancelled. -/
theorem finished_keeps_deadline (retries : plan.settings.retry = true)
    (finished : (plan.alarmedRun w alarms limit before).phase = .finished r) :
    KeepsDeadline plan w (before.read w).now r := by
  have limits : InLimits plan w (before.read w).now (plan.alarmedRun w alarms limit before) :=
    Plan.alarmedRun_keeps (inLimits_start retries before) inLimits_alarmed
      (fun _ _ => inLimits_move) limit
  unfold InLimits at limits
  rw [finished] at limits
  obtain ⟨started, early, late⟩ := limits
  refine ⟨started, ?_, ?_, ?_⟩
  · rw [started]
    exact early
  · rw [started]
    exact late
  · intro n timeout inside
    have late := late n timeout
    rw [← started, Span.le_iff_nanos, Span.add_nanos_of_le inside] at late
    rw [Span.le_iff_nanos, Span.sub_nanos]
    omega

def shortRehearsal : Plan :=
  { rehearsal with settings := { rehearsal.settings with timeout := .ofSeconds 8 } }

def soldOutWorld : World :=
  { rehearsalWorld with
    call := fun _ _ _ => { answer := .failed (lit "Sold out"), latency := .ofSeconds 1 } }

theorem shortRehearsal_keeps_deadline :
    shortRehearsal.settings.retry = true ∧ soldOutWorld.Still ∧
    ∃ r, (shortRehearsal.alarmedRun soldOutWorld (fun _ => false) 40 {}).phase = .finished r ∧
      r.outcome = .timeout 2 ∧ r.attempts.length = 2 ∧
        KeepsDeadline shortRehearsal soldOutWorld (Scene.read soldOutWorld {}).now r := by
  have finished : ∃ r, (shortRehearsal.alarmedRun soldOutWorld (fun _ => false) 40 {}).phase =
      .finished r ∧ r.outcome = .timeout 2 ∧ r.attempts.length = 2 := by
    rw [Plan.alarmedRun_silent]
    exact ⟨_, rfl, rfl, rfl⟩
  obtain ⟨r, finished, outcome, two⟩ := finished
  exact ⟨rfl, fun _ => rfl, r, finished, outcome, two, finished_keeps_deadline rfl finished⟩

end BookingRetry.Run
