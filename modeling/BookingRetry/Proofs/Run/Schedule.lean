import BookingRetry.Proofs.Run.Attempts
import BookingRetry.Proofs.Run.Timetable
import BookingRetry.Proofs.Span

/-!
When a run makes its calls. On a simulated clock a run has no freedom: its calls start and end at
the moments that one recursion gives, and it ends after the first call from which that recursion
does not go on. The invariant says where between two of those moments the clock stands at each
stage.
-/
namespace BookingRetry

def Attempt.times (a : Attempt) : Nat × Nat := (a.startedAt.nanos, a.finishedAt.nanos)

namespace Run

/-- Calls go by a script, a sleep lasts as long as was asked for, and the clock stands still
otherwise; nothing is cancelled and no log breaks. -/
def World.simulated (script : Nat → Turn) (stamp : Nat → Stamp) : World where
  call := fun k _ _ => { answer := (script k).answer, latency := (script k).latency }
  sleep := fun _ _ d => { passed := d }
  stamp := stamp

def Scene.turns (s : Scene) (script : Nat → Turn) (k : Nat) : Turn := script (s.calls.length + k)

def State.restsUntil (w : World) (st : State) : Nat :=
  match st.phase with
  | .going (.calling _) p =>
    st.scene.now.nanos +
      (w.call st.scene.calls.length st.scene.now p.rotation.current).latency.nanos
  | .going (.waiting d) _ =>
    st.scene.now.nanos + (w.sleep st.scene.sleeps.length st.scene.now d).passed.nanos
  | _ => st.scene.now.nanos

def State.ClockInRange (w : World) (st : State) : Prop := st.restsUntil w ≤ maxNanos

instance (w : World) (st : State) : Decidable (st.ClockInRange w) :=
  inferInstanceAs (Decidable (_ ≤ _))

/-- What the clock shows at a stage after so many attempts. -/
def Stage.Shows (plan : Plan) (turns : Nat → Turn) (entered count now : Nat) : Stage → Prop
  | .budgeting => now = entered
  | .probing =>
    now = plan.startOf turns entered count ∨
      0 < count ∧ now = plan.endOf turns entered (count - 1) + plan.pause
  | .starting => now = plan.startOf turns entered count
  | .calling t => now = plan.startOf turns entered count ∧ now = t.nanos
  | .tallying | .settling => 0 < count ∧ now = plan.endOf turns entered (count - 1)
  | .waiting d =>
    0 < count ∧ 0 < d.nanos ∧
      (now + d.nanos = plan.startOf turns entered count ∨
        now + d.nanos = plan.endOf turns entered (count - 1) + plan.pause)
  | .woken =>
    0 < count ∧
      (now = plan.startOf turns entered count ∨
        now = plan.endOf turns entered (count - 1) + plan.pause)

/-- The deadline has been found to lie ahead since the clock last moved. -/
def Stage.checked : Stage → Bool
  | .probing | .starting | .calling _ => true
  | _ => false

/-- What is true of the times of a run under way. -/
structure OnTime (plan : Plan) (turns : Nat → Turn) (entered : Span) (s : Scene) (stage : Stage)
    (p : Progress) : Prop where
  live : s.cancelled = false
  startedAt_eq : p.startedAt = entered
  deadline_eq : ∀ d, p.deadline = some d → d.nanos = plan.lastMoment entered.nanos
  interval_eq : p.pacing.minInterval = plan.settings.minInterval
  first : p.count = 0 → p.pacing.last = none
  last : 0 < p.count →
    ∃ l, p.pacing.last = some l ∧ l.nanos = plan.endOf turns entered.nanos (p.count - 1)
  times_eq : p.attempts.map Attempt.times = plan.timetable turns entered.nanos p.count
  failed : ∀ k, k < p.count →
    ∃ kind message, plan.markers.verdict (turns k).answer = .retryable kind message
  goes : ∀ k, k + 1 < p.count → plan.endingAt? turns entered.nanos k = none
  shows : stage.Shows plan turns entered.nanos p.count s.now.nanos
  ahead : plan.settings.retry = true → stage.checked = true →
    s.now.nanos < plan.lastMoment entered.nanos
  begun : stage ≠ .budgeting → plan.settings.retry = true →
    entered.nanos < plan.lastMoment entered.nanos

structure TimesKept (plan : Plan) (turns : Nat → Turn) (entered : Span) (o : Outcome)
    (attempts : List Attempt) (startedAt : Span) : Prop where
  startedAt_eq : startedAt = entered
  times_eq : attempts.map Attempt.times = plan.timetable turns entered.nanos attempts.length
  ends : plan.EndsAfter turns entered.nanos attempts.length o

def Scheduled (plan : Plan) (turns : Nat → Turn) (entered : Span) (st : State) : Prop :=
  match st.phase with
  | .going stage p => OnTime plan turns entered st.scene stage p
  | .closing o attempts _ startedAt => TimesKept plan turns entered o attempts startedAt
  | .finished r => TimesKept plan turns entered r.outcome r.attempts r.startedAt
  | .failed _ => True

variable {plan : Plan} {turns : Nat → Turn} {entered : Span} {s s' : Scene} {stage : Stage}
  {p : Progress}

/-! ### What every move keeps -/

theorem OnTime.onward (h : OnTime plan turns entered s stage p) {next : Stage}
    (live : s'.cancelled = false)
    (shows : next.Shows plan turns entered.nanos p.count s'.now.nanos)
    (ahead : plan.settings.retry = true → next.checked = true →
      s'.now.nanos < plan.lastMoment entered.nanos)
    (begun : plan.settings.retry = true → entered.nanos < plan.lastMoment entered.nanos) :
    OnTime plan turns entered s' next p :=
  { h with
    live := live
    shows := shows
    ahead := ahead
    begun := fun _ => begun }

theorem OnTime.moved (h : OnTime plan turns entered s stage p) :
    OnTime plan turns entered s stage p.moved :=
  { h with }

theorem OnTime.due (h : OnTime plan turns entered s stage p) :
    OnTime plan turns entered s stage p.due :=
  { h with }

theorem OnTime.goes_on (h : OnTime plan turns entered s stage p)
    (starts : s.now.nanos = plan.startOf turns entered.nanos p.count)
    (checked : stage.checked = true)
    (pass : plan.settings.retry = false → p.count < plan.candidates.length) :
    ∀ k, k + 1 < p.count + 1 → plan.endingAt? turns entered.nanos k = none := by
  intro k bound
  by_cases earlier : k + 1 < p.count
  · exact h.goes k earlier
  · have last : k + 1 = p.count := by omega
    obtain ⟨kind, message, judged⟩ := h.failed k (by omega)
    cases retry : plan.settings.retry with
    | true => rw [endingAt?_repeated judged retry, last, ← starts, if_pos (h.ahead retry checked)]
    | false => rw [endingAt?_passed judged retry, last, if_pos (pass retry)]

theorem OnTime.timeout (h : OnTime plan turns entered s stage p)
    (going : stage ≠ .budgeting) (some : 0 < p.count)
    (retries : plan.settings.retry = true)
    (late : plan.lastMoment entered.nanos ≤ s.now.nanos)
    (before : s.now.nanos ≤ plan.startOf turns entered.nanos p.count) :
    TimesKept plan turns entered (.timeout p.count) p.attempts p.startedAt where
  startedAt_eq := h.startedAt_eq
  times_eq := h.times_eq
  ends := by
    obtain ⟨kind, message, judged⟩ := h.failed (p.count - 1) (by omega)
    refine endsAfter_last (h.begun going) some h.goes ?_
    have place : p.count - 1 + 1 = p.count := Nat.sub_add_cancel some
    show plan.endingAt? turns entered.nanos (p.count - 1) = _
    rw [endingAt?_repeated judged retries, place, if_neg (by omega)]

theorem OnTime.spent (h : OnTime plan turns entered s .budgeting p) (none : p.count = 0)
    (retries : plan.settings.retry = true) (past : plan.lastMoment entered.nanos ≤ s.now.nanos) :
    TimesKept plan turns entered (.timeout 0) p.attempts p.startedAt where
  startedAt_eq := h.startedAt_eq
  times_eq := h.times_eq
  ends := by
    have now : s.now.nanos = entered.nanos := h.shows
    unfold Plan.EndsAfter
    rw [if_pos ⟨retries, now ▸ past⟩]
    exact ⟨none, rfl⟩

theorem OnTime.exhausted (h : OnTime plan turns entered s .settling p)
    (single : plan.settings.retry = false) (all : p.count = plan.candidates.length) :
    TimesKept plan turns entered (.exhausted p.count) p.attempts p.startedAt where
  startedAt_eq := h.startedAt_eq
  times_eq := h.times_eq
  ends := by
    obtain ⟨some, _⟩ := h.shows
    obtain ⟨kind, message, judged⟩ := h.failed (p.count - 1) (by omega)
    refine endsAfter_last (h.begun nofun) some h.goes ?_
    show plan.endingAt? turns entered.nanos (p.count - 1) = _
    rw [endingAt?_passed judged single, if_neg (by omega), all]

theorem OnTime.late (h : OnTime plan turns entered s stage p)
    (retries : plan.settings.retry = true) (past : plan.lastMoment entered.nanos ≤ s.now.nanos)
    (checked : stage = .settling ∨ stage = .woken) :
    TimesKept plan turns entered (.timeout p.count) p.attempts p.startedAt := by
  have pause := pause_le_gap plan
  have next := @startOf_after plan turns entered.nanos p.count
  -- Right after a call the next start is a gap away; after a wait it is at most that far.
  rcases checked with rfl | rfl
  · obtain ⟨some, ended⟩ := h.shows
    exact h.timeout nofun some retries past (by rw [next some, ended]; omega)
  · obtain ⟨some, starts | paused⟩ := h.shows
    · exact h.timeout nofun some retries past (by omega)
    · exact h.timeout nofun some retries past (by rw [next some]; omega)

theorem OnTime.start_of_free (h : OnTime plan turns entered s .probing p)
    (free : (p.pacing.check s.now).free = true) :
    s.now.nanos = plan.startOf turns entered.nanos p.count := by
  rcases h.shows with starts | ⟨some, paused⟩
  · exact starts
  · obtain ⟨l, called, ended⟩ := h.last some
    have enough := (Pacing.check_free_iff called s.now).mp free
    rw [h.interval_eq, paused, ended] at enough
    rw [startOf_after plan turns entered.nanos some, gap_eq_max, paused]
    omega

theorem OnTime.wait_of_busy (h : OnTime plan turns entered s .probing p)
    (busy : (p.pacing.check s.now).free = false) :
    0 < p.count ∧ 0 < (p.pacing.check s.now).wait.nanos ∧
      s.now.nanos + (p.pacing.check s.now).wait.nanos =
        plan.startOf turns entered.nanos p.count := by
  have some : 0 < p.count := by
    apply Nat.pos_of_ne_zero
    intro none
    rw [Pacing.check_first (h.first none)] at busy
    contradiction
  obtain ⟨l, called, ended⟩ := h.last some
  have short := mt (Pacing.check_free_iff called s.now).mpr (by simp [busy])
  have wait := Pacing.check_wait called busy
  rw [h.interval_eq] at short wait
  have starts := startOf_after plan turns entered.nanos some
  rw [gap_eq_max] at starts
  rcases h.shows with now | ⟨_, now⟩ <;> refine ⟨some, ?_, ?_⟩ <;> omega

theorem OnTime.pausing {d : Span} (h : OnTime plan turns entered s stage p)
    (going : stage ≠ .budgeting) (live : s'.cancelled = false) (some : 0 < p.count)
    (now : s'.now.nanos + d.nanos = plan.startOf turns entered.nanos p.count ∨
      s'.now.nanos + d.nanos = plan.endOf turns entered.nanos (p.count - 1) + plan.pause) :
    Scheduled plan turns entered (pausing d p s') := by
  rcases pausing_cases d p live with ⟨zero, eq⟩ | ⟨positive, eq⟩ <;> rw [eq]
  · rw [zero] at now
    exact h.onward live ⟨some, now⟩ nofun (h.begun going)
  · exact h.onward live ⟨some, positive, now⟩ nofun (h.begun going)

theorem OnTime.starting (h : OnTime plan turns entered s .probing p)
    (free : (p.pacing.check s.now).free = true) (live : s'.cancelled = false)
    (now : s'.now = s.now) : OnTime plan turns entered s' .starting p := by
  refine h.onward live ?_ ?_ (h.begun nofun)
  · rw [now]
    exact h.start_of_free free
  · rw [now]
    exact fun retries _ => h.ahead retries rfl

theorem OnTime.settling (h : OnTime plan turns entered s .tallying p)
    (live : s'.cancelled = false) (now : s'.now = s.now) :
    OnTime plan turns entered s' .settling p := by
  refine h.onward live ?_ nofun (h.begun nofun)
  rw [now]
  exact h.shows

theorem OnTime.probing (h : OnTime plan turns entered s stage p) (going : stage ≠ .budgeting)
    (live : s'.cancelled = false)
    (shows : Stage.probing.Shows plan turns entered.nanos p.count s'.now.nanos)
    (early : plan.settings.retry = true → s'.now.nanos < plan.lastMoment entered.nanos) :
    OnTime plan turns entered s' .probing p :=
  h.onward live shows (fun retries _ => early retries) (h.begun going)

theorem OnTime.early_iff (h : OnTime plan turns entered s stage p) {d t : Span}
    (bounded : p.deadline = some d) : t < d ↔ t.nanos < plan.lastMoment entered.nanos := by
  rw [Span.lt_iff_nanos, h.deadline_eq d bounded]

section Answered

variable {t heardAt : Span} {verdict : Verdict}

theorem OnTime.times_kept (h : OnTime plan turns entered s (.calling t) p)
    (ended : heardAt.nanos = plan.endOf turns entered.nanos p.count) :
    (p.kept (p.attempt t heardAt verdict)).attempts.map Attempt.times =
      plan.timetable turns entered.nanos (p.count + 1) := by
  obtain ⟨starts, same⟩ := h.shows
  have last : (p.attempt t heardAt verdict).times =
      (plan.startOf turns entered.nanos p.count, plan.endOf turns entered.nanos p.count) := by
    rw [← starts, ← ended, same]
    rfl
  rw [timetable_succ, ← h.times_eq, ← last]
  exact List.map_append

theorem OnTime.last_call (h : OnTime plan turns entered s (.calling t) p)
    (pass : plan.settings.retry = false → p.count < plan.candidates.length)
    (ended : heardAt.nanos = plan.endOf turns entered.nanos p.count) {o : Outcome}
    (ending : plan.endingAt? turns entered.nanos p.count = some o) :
    TimesKept plan turns entered o (p.kept (p.attempt t heardAt verdict)).attempts
      p.startedAt := by
  have count := Progress.count_kept p (p.attempt t heardAt verdict)
  refine ⟨h.startedAt_eq, ?_, ?_⟩
  · rw [h.times_kept ended]
    exact congrArg _ count.symm
  · show plan.EndsAfter turns entered.nanos (p.kept _).count o
    rw [count]
    exact endsAfter_last (h.begun nofun) (Nat.succ_pos _) (h.goes_on h.shows.1 rfl pass) ending

theorem OnTime.tallying {kind : FailureKind} {message : Text}
    (h : OnTime plan turns entered s (.calling t) p)
    (judged : plan.markers.verdict (turns p.count).answer = .retryable kind message)
    (pass : plan.settings.retry = false → p.count < plan.candidates.length)
    (ended : heardAt.nanos = plan.endOf turns entered.nanos p.count)
    (now : s'.now = heardAt) (live : s'.cancelled = false) :
    OnTime plan turns entered s' .tallying
      ((p.kept (p.attempt t heardAt verdict)).failed kind) where
  live := live
  startedAt_eq := h.startedAt_eq
  deadline_eq := h.deadline_eq
  interval_eq := h.interval_eq
  first none := by
    rw [Progress.failed_count, Progress.count_kept] at none
    contradiction
  last _ := ⟨heardAt, rfl, by rw [Progress.failed_count, Progress.count_kept]; exact ended⟩
  times_eq := by
    rw [Progress.failed_attempts, h.times_kept ended, Progress.failed_count, Progress.count_kept]
  failed := by
    intro k bound
    rw [Progress.failed_count, Progress.count_kept] at bound
    by_cases earlier : k < p.count
    · exact h.failed k earlier
    · have last : k = p.count := by omega
      exact ⟨kind, message, last ▸ judged⟩
  goes := by
    rw [Progress.failed_count, Progress.count_kept]
    exact h.goes_on h.shows.1 rfl pass
  shows := by
    rw [Progress.failed_count, Progress.count_kept, now]
    exact ⟨Nat.succ_pos _, ended⟩
  ahead _ checked := by contradiction
  begun _ := h.begun nofun

theorem OnTime.answered (h : OnTime plan turns entered s (.calling t) p)
    (judged : verdict = plan.markers.verdict (turns p.count).answer)
    (pass : plan.settings.retry = false → p.count < plan.candidates.length)
    (ended : heardAt.nanos = plan.endOf turns entered.nanos p.count)
    (now : s'.now = heardAt) (live : s'.cancelled = false) :
    Scheduled plan turns entered
      ⟨s', (p.kept (p.attempt t heardAt verdict)).following (p.count + 1) verdict⟩ := by
  cases verdict with
  | success detail => exact h.last_call pass ended (endingAt?_success judged.symm)
  | fatal kind message => exact h.last_call pass ended (endingAt?_fatal judged.symm)
  | retryable kind message => exact h.tallying judged.symm pass ended now live

end Answered

section Simulated

variable {script : Nat → Turn} {stamp : Nat → Stamp} {before : Scene}

@[simp] theorem simulated_drift (k : Nat) : (World.simulated script stamp).drift k = .zero := rfl

theorem read_simulated (s : Scene) : (s.read (.simulated script stamp)).now = s.now :=
  read_still (fun _ => rfl) s

theorem called_turn {w : World} {s : Scene} (account : Account plan w before s.calls p.attempts) :
    script s.calls.length = before.turns script p.count := by
  rw [account.length_eq]
  rfl

theorem OnTime.ended {t : Span} {called : Candidate × Nat}
    (h : OnTime plan (before.turns script) before.now s (.calling t) p)
    (account : Account plan (.simulated script stamp) before s.calls p.attempts)
    (inRange : State.ClockInRange (.simulated script stamp) ⟨s, .going (.calling t) p⟩) :
    let w := World.simulated script stamp
    (s.heard w called (w.call s.calls.length s.now p.rotation.current)).now.nanos =
      plan.endOf (before.turns script) before.now.nanos p.count := by
  intro w
  have inside : s.now.nanos + (script s.calls.length).latency.nanos ≤ maxNanos := inRange
  have latency : (w.call s.calls.length s.now p.rotation.current).latency =
      (script s.calls.length).latency := rfl
  have turn : script s.calls.length = before.turns script p.count := called_turn account
  rw [Scene.heard_now, simulated_drift, Span.add_zero, latency, Span.add_nanos_of_le inside, turn,
    h.shows.1]
  rfl

theorem rested_nanos {d : Span}
    (inRange : State.ClockInRange (.simulated script stamp) ⟨s, .going (.waiting d) p⟩) :
    let w := World.simulated script stamp
    (s.rested d (w.sleep s.sleeps.length s.now d)).now.nanos = s.now.nanos + d.nanos :=
  Span.add_nanos_of_le inRange

theorem scheduled_start (somebody : plan.candidates ≠ []) (live : before.cancelled = false) :
    Scheduled plan turns before.now (plan.start (.simulated script stamp) before) := by
  rcases start_cases plan (.simulated script stamp) before with
    ⟨nobody, _⟩ | ⟨rotation, _, ⟨_, eq⟩ | ⟨f, _, eq⟩⟩
  · exact absurd nobody somebody
  · rw [eq, read_simulated]
    exact
      { live := live
        startedAt_eq := rfl
        deadline_eq := by
          intro d bounded
          simp only [Plan.opening] at bounded
          split at bounded
          · cases bounded
            exact Span.add_nanos _ _
          · contradiction
        interval_eq := rfl
        first := fun _ => rfl
        last := nofun
        times_eq := rfl
        failed := nofun
        goes := nofun
        shows := congrArg Span.nanos (read_simulated before)
        ahead := nofun
        begun := fun going => absurd rfl going }
  · rw [eq]
    exact trivial

theorem scheduled_move {st st' : State} (move : Move plan (.simulated script stamp) st st')
    (accounted : Accounted plan (.simulated script stamp) before st)
    (inRange : st.ClockInRange (.simulated script stamp))
    (h : Scheduled plan (before.turns script) before.now st) :
    Scheduled plan (before.turns script) before.now st' := by
  cases move with
  | @unlimited s p unbounded =>
    have single := accounted.single_of_unbounded unbounded
    have none := accounted.unspent rfl
    refine h.onward h.live (Or.inl ?_) ?_ ?_
    · rw [none]; exact h.shows
    · simp [single]
    · simp [single]
  | @inBudget s p d bounded early =>
    have none := accounted.unspent rfl
    have now : s.now.nanos = before.now.nanos := h.shows
    have ahead : s.now.nanos < plan.lastMoment before.now.nanos := by
      rw [← h.deadline_eq d bounded]
      simpa [Span.lt_iff_nanos] using early
    refine h.onward h.live (Or.inl ?_) ?_ ?_
    · rw [none, read_simulated]; exact now
    · rw [read_simulated]; exact fun _ _ => ahead
    · exact fun _ => now ▸ ahead
  | @spent s p d bounded late =>
    have past : plan.lastMoment before.now.nanos ≤ s.now.nanos := by
      rw [← h.deadline_eq d bounded]
      simpa [Span.lt_iff_nanos] using late
    refine noting_keeps (fun _ _ => trivial) ?_
    intro s' _ _ _
    exact h.spent (accounted.unspent rfl) (accounted.retry_of_bounded bounded) past
  | interrupted cancelled watched =>
    rw [h.live] at cancelled
    contradiction
  | @cleared s p live free still =>
    rw [read_simulated] at free
    exact OnTime.starting h free live (read_simulated s)
  | @movedOn s p live free due inside =>
    rw [read_simulated] at free
    have starting : OnTime plan (before.turns script) before.now (s.read (.simulated script stamp))
        .starting p := h.starting free live (read_simulated s)
    exact starting.moved
  | wrapped live free due last =>
    rw [read_simulated] at free
    refine noting_keeps (fun _ _ => trivial) ?_
    intro s' now cancelled _
    exact (h.starting free (cancelled.trans live) (now.trans (read_simulated _))).moved
  | held live busy =>
    rw [read_simulated] at busy ⊢
    obtain ⟨some, _, starts⟩ := h.wait_of_busy busy
    exact h.pausing nofun live some (Or.inl (by rw [read_simulated]; exact starts))
  | @announced s p live =>
    rcases announce_cases (.simulated script stamp) p s with ⟨_, eq⟩ | ⟨f, _, eq⟩ <;> rw [eq]
    · refine h.onward live ?_ ?_ (h.begun nofun)
      · rw [read_simulated]; exact ⟨h.shows, rfl⟩
      · rw [read_simulated]; exact fun retries _ => h.ahead retries rfl
    · exact trivial
  | @answered s p startedAt reply verdict heard replied judged passed =>
    have turn : script s.calls.length = before.turns script p.count :=
      called_turn accounted.account
    have ended : heard.now.nanos = plan.endOf (before.turns script) before.now.nanos p.count := by
      rw [passed, replied]
      exact h.ended accounted.account inRange
    refine noting_keeps (fun _ _ => trivial) ?_
    intro s' now cancelled _
    refine h.answered ?_ (accounted.pass_open rfl) ended now ?_
    · rw [judged, replied, ← turn]
      rfl
    · rw [cancelled, passed, Scene.heard_cancelled, h.live, replied]
      rfl
  | untallied => exact (h.settling h.live rfl).due
  | tallied =>
    refine noting_keeps (fun _ _ => trivial) ?_
    intro s' now cancelled _
    exact (h.settling (cancelled.trans h.live) (now.trans (read_simulated _))).due
  | @exhausted s p live unbounded last =>
    have single := accounted.single_of_unbounded unbounded
    refine noting_keeps (fun _ _ => trivial) ?_
    intro s' _ _ _
    exact h.exhausted single ((accounted.last_of_pass single).mp last)
  | @passGoesOn s p live unbounded inside =>
    have single := accounted.single_of_unbounded unbounded
    obtain ⟨some, ended⟩ := h.shows
    refine h.probing nofun live (Or.inr ⟨some, ?_⟩) (by simp [single])
    rw [ended, Plan.pause, single]
    rfl
  | @waits s p d live bounded early =>
    have retries := accounted.retry_of_bounded bounded
    obtain ⟨some, ended⟩ := h.shows
    refine h.pausing nofun live some (Or.inr ?_)
    rw [read_simulated, ended, Plan.pause, retries]
    rfl
  | @late s p d stage bounded late checked =>
    rw [read_simulated, h.early_iff bounded, Nat.not_lt] at late
    refine noting_keeps (fun _ _ => trivial) ?_
    intro s' _ _ _
    exact h.late (accounted.retry_of_bounded bounded) late (checked.imp_left And.left)
  | @roused s p d nap napped cancels =>
    rw [napped] at cancels
    contradiction
  | @slept s p d nap napped whole =>
    obtain ⟨some, positive, now⟩ := h.shows
    refine h.onward ?_ ⟨some, ?_⟩ nofun (h.begun nofun)
    · rw [napped, Scene.rested_cancelled, h.live]
      rfl
    · rw [napped, rested_nanos inRange]
      exact now
  | @wokenUnlimited s p unbounded =>
    have single := accounted.single_of_unbounded unbounded
    obtain ⟨some, now⟩ := h.shows
    exact h.probing nofun h.live (now.imp_right fun paused => ⟨some, paused⟩) (by simp [single])
  | @wokenInTime s p d bounded early =>
    obtain ⟨some, now⟩ := h.shows
    rw [h.early_iff bounded] at early
    refine h.probing nofun h.live ?_ fun _ => early
    rw [read_simulated]
    exact now.imp_right fun paused => ⟨some, paused⟩
  | @closed s o attempts wraps startedAt =>
    rcases close_cases (.simulated script stamp) o attempts wraps startedAt s with
      ⟨_, eq⟩ | ⟨f, _, eq⟩ <;> rw [eq]
    · exact h
    · exact trivial
  | rests => exact h
  | stuck => exact h

end Simulated

end Run

end BookingRetry
