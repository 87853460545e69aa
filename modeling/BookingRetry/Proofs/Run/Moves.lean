import BookingRetry.Proofs.Rotation
import BookingRetry.Run.Step

/-!
What a step of a run can do: a relation with one rule for each way out of each stage. Every step is
one of these moves, so what all moves keep, all runs keep.
-/
namespace BookingRetry.Run

namespace Scene

def heard (w : World) (called : Candidate × Nat) (reply : Reply) (s : Scene) : Scene :=
  (Scene.after reply.latency reply.cancels reply.breaksLog
    { s with calls := s.calls ++ [called] }).read w

def rested (d : Span) (nap : Nap) (s : Scene) : Scene :=
  Scene.after nap.passed nap.cancels nap.breaksLog { s with sleeps := s.sleeps ++ [d] }

@[simp] theorem read_now (w : World) (s : Scene) :
    (s.read w).now = s.now.add (w.drift s.readings) := rfl
@[simp] theorem read_calls (w : World) (s : Scene) : (s.read w).calls = s.calls := rfl

@[simp] theorem heard_now (w : World) (called : Candidate × Nat) (reply : Reply) (s : Scene) :
    (s.heard w called reply).now = (s.now.add reply.latency).add (w.drift s.readings) := rfl
@[simp] theorem heard_cancelled (w : World) (called : Candidate × Nat) (reply : Reply) (s : Scene) :
    (s.heard w called reply).cancelled = (s.cancelled || reply.cancels) := rfl

@[simp] theorem rested_cancelled (d : Span) (nap : Nap) (s : Scene) :
    (s.rested d nap).cancelled = (s.cancelled || nap.cancels) := rfl

end Scene

namespace Progress

def moved (p : Progress) : Progress := { p with rotation := p.rotation.next, moveOn := false }

def due (p : Progress) : Progress := { p with moveOn := true }

def attempt (p : Progress) (startedAt finishedAt : Span) (v : Verdict) : Attempt :=
  { number := p.count + 1, index := p.rotation.index, label := p.rotation.current.label, startedAt
    finishedAt, result := v.result }

def kept (p : Progress) (a : Attempt) : Progress :=
  { p with pacing := p.pacing.record a.finishedAt, attempts := p.attempts ++ [a] }

theorem count_kept (p : Progress) (a : Attempt) : (p.kept a).count = p.count + 1 :=
  List.length_append

def failed (p : Progress) (kind : FailureKind) : Progress :=
  { p with failures := p.failures.add kind }

@[simp] theorem failed_attempts (p : Progress) (kind : FailureKind) :
    (p.failed kind).attempts = p.attempts := rfl
@[simp] theorem failed_count (p : Progress) (kind : FailureKind) :
    (p.failed kind).count = p.count := rfl

def following (p : Progress) (number : Nat) : Verdict → Phase
  | .success detail => p.closing (.success number detail)
  | .fatal _ message => p.closing (.fatalInput number message)
  | .retryable kind _ => .going .tallying (p.failed kind)

end Progress

/-- A summary follows the attempt with this number, if it fails and may be made again. -/
def Plan.Sums (plan : Plan) (number : Nat) : Prop :=
  0 < plan.settings.summaryEvery ∧ plan.settings.summaryEvery ∣ number

instance (plan : Plan) (number : Nat) : Decidable (plan.Sums number) :=
  inferInstanceAs (Decidable (_ ∧ _))

/-- The ways out of each stage. -/
inductive Move (plan : Plan) (w : World) : State → State → Prop where
  | unlimited {s p} (unbounded : p.deadline = none) :
      Move plan w ⟨s, .going .budgeting p⟩ ⟨s, .going .probing p⟩
  | inBudget {s p d} (bounded : p.deadline = some d) (early : (s.read w).now < d) :
      Move plan w ⟨s, .going .budgeting p⟩ ⟨s.read w, .going .probing p⟩
  | spent {s p d} (bounded : p.deadline = some d) (late : ¬ (s.read w).now < d) :
      Move plan w ⟨s, .going .budgeting p⟩
        (noting w .error budgetSpentMessage (p.closing (.timeout 0)) (s.read w))
  | interrupted {s stage p} (cancelled : s.cancelled = true)
      (watched : stage = .probing ∨ stage = .starting ∨ stage = .settling) :
      Move plan w ⟨s, .going stage p⟩ ⟨s, p.interrupted⟩
  | cleared {s p} (live : s.cancelled = false)
      (free : (p.pacing.check (s.read w).now).free = true) (still : p.moveOn = false) :
      Move plan w ⟨s, .going .probing p⟩ ⟨s.read w, .going .starting p⟩
  | movedOn {s p} (live : s.cancelled = false)
      (free : (p.pacing.check (s.read w).now).free = true) (due : p.moveOn = true)
      (inside : p.rotation.atLast = false) :
      Move plan w ⟨s, .going .probing p⟩ ⟨s.read w, .going .starting p.moved⟩
  | wrapped {s p} (live : s.cancelled = false)
      (free : (p.pacing.check (s.read w).now).free = true) (due : p.moveOn = true)
      (last : p.rotation.atLast = true) :
      Move plan w ⟨s, .going .probing p⟩
        (noting w .info (wrapMessage p.rotation.next.size (p.rotation.next.wraps + 1))
          (.going .starting p.moved) (s.read w))
  | held {s p} (live : s.cancelled = false)
      (busy : (p.pacing.check (s.read w).now).free = false) :
      Move plan w ⟨s, .going .probing p⟩
        (pausing (p.pacing.check (s.read w).now).wait p (s.read w))
  | announced {s p} (live : s.cancelled = false) :
      Move plan w ⟨s, .going .starting p⟩ (Plan.announce w p s)
  | answered {s p startedAt reply verdict heard}
      (replied : reply = w.call s.calls.length s.now p.rotation.current)
      (judged : verdict = plan.markers.verdict reply.answer)
      (passed : heard = s.heard w (p.rotation.current, p.count + 1) reply) :
      Move plan w ⟨s, .going (.calling startedAt) p⟩
        (noting w (resultLevel verdict)
          (resultMessage (p.count + 1) p.rotation.current.label verdict)
          ((p.kept (p.attempt startedAt heard.now verdict)).following (p.count + 1) verdict) heard)
  | untallied {s p} (between : ¬ plan.Sums p.count) :
      Move plan w ⟨s, .going .tallying p⟩ ⟨s, .going .settling p.due⟩
  | tallied {s p} (sums : plan.Sums p.count) :
      Move plan w ⟨s, .going .tallying p⟩
        (noting w .info
          (summaryMessage p.count p.failures ((s.read w).now.sub p.startedAt)
            (p.deadline.map fun d => d.sub (s.read w).now))
          (.going .settling p.due) (s.read w))
  | exhausted {s p} (live : s.cancelled = false) (unbounded : p.deadline = none)
      (last : p.rotation.atLast = true) :
      Move plan w ⟨s, .going .settling p⟩
        (noting w .error (passFinishedMessage p.rotation.size) (p.closing (.exhausted p.count)) s)
  | passGoesOn {s p} (live : s.cancelled = false) (unbounded : p.deadline = none)
      (inside : p.rotation.atLast = false) :
      Move plan w ⟨s, .going .settling p⟩ ⟨s, .going .probing p⟩
  | waits {s p d} (live : s.cancelled = false) (bounded : p.deadline = some d)
      (early : (s.read w).now < d) :
      Move plan w ⟨s, .going .settling p⟩ (pausing plan.settings.wait p (s.read w))
  | late {s p d stage} (bounded : p.deadline = some d) (late : ¬ (s.read w).now < d)
      (checked : stage = .settling ∧ s.cancelled = false ∨ stage = .woken) :
      Move plan w ⟨s, .going stage p⟩
        (noting w .error (deadlineMessage p.count ((s.read w).now.sub p.startedAt))
          (p.closing (.timeout p.count)) (s.read w))
  | roused {s p d nap} (napped : nap = w.sleep s.sleeps.length s.now d)
      (cancels : nap.cancels = true) :
      Move plan w ⟨s, .going (.waiting d) p⟩ ⟨s.rested d nap, p.interrupted⟩
  | slept {s p d nap} (napped : nap = w.sleep s.sleeps.length s.now d)
      (whole : nap.cancels = false) :
      Move plan w ⟨s, .going (.waiting d) p⟩ ⟨s.rested d nap, .going .woken p⟩
  | wokenUnlimited {s p} (unbounded : p.deadline = none) :
      Move plan w ⟨s, .going .woken p⟩ ⟨s, .going .probing p⟩
  | wokenInTime {s p d} (bounded : p.deadline = some d) (early : (s.read w).now < d) :
      Move plan w ⟨s, .going .woken p⟩ ⟨s.read w, .going .probing p⟩
  | closed {s o attempts wraps startedAt} :
      Move plan w ⟨s, .closing o attempts wraps startedAt⟩
        (Plan.close w o attempts wraps startedAt s)
  | rests {s r} : Move plan w ⟨s, .finished r⟩ ⟨s, .finished r⟩
  | stuck {s f} : Move plan w ⟨s, .failed f⟩ ⟨s, .failed f⟩

/-! ### How the parts of a step end -/

theorem noting_of_ok {w : World} {level : Log.Level} {message : Text} {s : Scene}
    (written : (s.record w level message).1 = .ok ()) (next : Phase) :
    noting w level message next s = ⟨(s.record w level message).2, next⟩ := by
  unfold noting
  split
  · rename_i taken
    rw [taken]
  · rename_i taken
    rw [taken] at written
    contradiction

theorem noting_of_error {w : World} {level : Log.Level} {message : Text} {s : Scene}
    {f : FileFault} (failed : (s.record w level message).1 = .error f) (next : Phase) :
    noting w level message next s = ⟨(s.record w level message).2, .failed f⟩ := by
  unfold noting
  split
  · rename_i taken
    rw [taken] at failed
    contradiction
  · rename_i taken
    rw [taken] at failed
    cases failed
    rw [taken]

theorem noting_cases (w : World) (level : Log.Level) (message : Text) (next : Phase) (s : Scene) :
    ((s.record w level message).1 = .ok () ∧
      noting w level message next s = ⟨(s.record w level message).2, next⟩) ∨
    ∃ f, (s.record w level message).1 = .error f ∧
      noting w level message next s = ⟨(s.record w level message).2, .failed f⟩ := by
  cases written : (s.record w level message).1 with
  | ok u => exact Or.inl ⟨rfl, noting_of_ok written next⟩
  | error f => exact Or.inr ⟨f, rfl, noting_of_error written next⟩

theorem noting_keeps {P : State → Prop} {w : World} {level : Log.Level} {message : Text}
    {next : Phase} {s : Scene} (failed : ∀ s' f, P ⟨s', .failed f⟩)
    (h : ∀ s', s'.now = s.now → s'.cancelled = s.cancelled → s'.calls = s.calls → P ⟨s', next⟩) :
    P (noting w level message next s) := by
  rcases noting_cases w level message next s with ⟨_, eq⟩ | ⟨f, _, eq⟩ <;> rw [eq]
  · exact h _ rfl rfl rfl
  · exact failed _ f

def Progress.announced (w : World) (p : Progress) (s : Scene) : Except FileFault Unit × Scene :=
  s.record w .info
    (startMessage (p.count + 1) p.rotation.current.label (p.rotation.index + 1) p.rotation.size)

theorem announce_of_ok {w : World} {p : Progress} {s : Scene}
    (written : (p.announced w s).1 = .ok ()) : Plan.announce w p s = ⟨(p.announced w s).2.read w,
      .going (.calling ((p.announced w s).2.read w).now) p⟩ := by
  unfold Progress.announced at written ⊢
  unfold Plan.announce
  dsimp only
  split
  · rename_i taken
    rw [taken]
  · rename_i taken
    rw [taken] at written
    contradiction

theorem announce_of_error {w : World} {p : Progress} {s : Scene} {f : FileFault}
    (failed : (p.announced w s).1 = .error f) :
    Plan.announce w p s = ⟨(p.announced w s).2, .failed f⟩ := by
  unfold Progress.announced at failed ⊢
  unfold Plan.announce
  dsimp only
  split
  · rename_i taken
    rw [taken] at failed
    contradiction
  · rename_i taken
    rw [taken] at failed
    cases failed
    rw [taken]

theorem announce_cases (w : World) (p : Progress) (s : Scene) :
    ((p.announced w s).1 = .ok () ∧ Plan.announce w p s = ⟨(p.announced w s).2.read w,
      .going (.calling ((p.announced w s).2.read w).now) p⟩) ∨
    ∃ f, (p.announced w s).1 = .error f ∧
      Plan.announce w p s = ⟨(p.announced w s).2, .failed f⟩ := by
  cases written : (p.announced w s).1 with
  | ok u => exact Or.inl ⟨rfl, announce_of_ok written⟩
  | error f => exact Or.inr ⟨f, rfl, announce_of_error written⟩

theorem pausing_cases (d : Span) (p : Progress) {s : Scene} (live : s.cancelled = false) :
    (d.nanos = 0 ∧ pausing d p s = ⟨s, .going .woken p⟩) ∨
    (0 < d.nanos ∧ pausing d p s = ⟨s, .going (.waiting d) p⟩) := by
  rcases Nat.eq_zero_or_pos d.nanos with zero | positive
  · exact Or.inl ⟨zero, by simp [pausing, live, Span.isZero, zero]⟩
  · exact Or.inr ⟨positive, by simp [pausing, live, Span.isZero, Nat.ne_of_gt positive]⟩

def Plan.writeFinal (w : World) (o : Outcome) (s : Scene) : Except FileFault Unit × Scene :=
  match o with
  | .interrupted _ =>
    match s.record w .warn interruptedMessage with
    | (.ok (), s) => s.record w o.level o.marker
    | failed => failed
  | _ => s.record w o.level o.marker

theorem conclude_eq_close (w : World) (o : Outcome) (s : Scene) :
    Plan.conclude w o s =
      match Plan.writeFinal w o s with
      | (.ok (), s) => s.close
      | failed => failed := by
  unfold Plan.conclude Plan.writeFinal
  cases o with
  | interrupted n =>
    cases first : s.record w .warn interruptedMessage with
    | mk result after =>
      cases result with
      | error f => rfl
      | ok u =>
        cases second :
          after.record w (Outcome.interrupted n).level (Outcome.interrupted n).marker with
        | mk result last => cases result <;> simp [second]
  | success | timeout | fatalInput | exhausted =>
    dsimp only
    split <;> simp_all

theorem writeFinal_keeps {α : Type} (field : Scene → α) (w : World) (o : Outcome) (s : Scene)
    (record : ∀ s level message, field (Scene.record w level message s).2 = field s) :
    field (Plan.writeFinal w o s).2 = field s := by
  unfold Plan.writeFinal
  cases o with
  | interrupted n =>
    have first := record s .warn interruptedMessage
    dsimp only
    split
    · rename_i after written
      rw [written] at first
      exact (record after _ _).trans first
    · exact first
  | success | timeout | fatalInput | exhausted => exact record s _ _

theorem conclude_keeps {α : Type} (field : Scene → α) (w : World) (o : Outcome) (s : Scene)
    (record : ∀ s level message, field (Scene.record w level message s).2 = field s)
    (close : ∀ s : Scene, field s.close.2 = field s) :
    field (Plan.conclude w o s).2 = field s := by
  have told := writeFinal_keeps field w o s record
  rw [conclude_eq_close]
  split
  · rename_i after same
    rw [same] at told
    exact (close after).trans told
  · exact told

@[simp] theorem conclude_calls (w : World) (o : Outcome) (s : Scene) :
    (Plan.conclude w o s).2.calls = s.calls :=
  conclude_keeps Scene.calls w o s (fun _ _ _ => rfl) fun _ => rfl

@[simp] theorem conclude_now (w : World) (o : Outcome) (s : Scene) :
    (Plan.conclude w o s).2.now = s.now :=
  conclude_keeps Scene.now w o s (fun _ _ _ => rfl) fun _ => rfl

/-- A run is reported if its log could be closed, and an interrupted one in any case. -/
theorem close_cases (w : World) (o : Outcome) (attempts : List Attempt) (wraps : Nat)
    (startedAt : Span) (s : Scene) :
    let told := Plan.conclude w o s
    ((told.1 = .ok () ∨ ∃ n, o = .interrupted n) ∧
      Plan.close w o attempts wraps startedAt s =
        ⟨told.2.read w, .finished ⟨o, attempts, wraps, startedAt, (told.2.read w).now⟩⟩) ∨
    ∃ f, told.1 = .error f ∧
      Plan.close w o attempts wraps startedAt s = ⟨told.2, .failed f⟩ := by
  intro told
  unfold Plan.close
  cases same : Plan.conclude w o s with
  | mk result after =>
    simp only [told, same]
    cases result with
    | ok u => exact Or.inl ⟨Or.inl rfl, rfl⟩
    | error f =>
      cases o with
      | interrupted n => exact Or.inl ⟨Or.inr ⟨n, rfl⟩, rfl⟩
      | success | timeout | fatalInput | exhausted => exact Or.inr ⟨f, rfl, rfl⟩

def Plan.opening (plan : Plan) (rotation : Rotation Candidate) (startedAt : Span) : Progress where
  rotation := rotation
  pacing := { minInterval := plan.settings.minInterval }
  startedAt := startedAt
  deadline := if plan.settings.retry then some (startedAt.add plan.settings.timeout) else none

theorem start_cases (plan : Plan) (w : World) (s : Scene) :
    (plan.candidates = [] ∧ plan.start w s =
      noting w .crit (preflightMessage noCandidates)
        (.closing (.fatalInput 0 noCandidates) [] 0 (s.read w).now) (s.read w)) ∨
    (∃ rotation, Rotation.ofList? plan.candidates = some rotation ∧
      ((((s.read w).header w plan.header).1 = .ok () ∧ plan.start w s =
        ⟨((s.read w).header w plan.header).2,
          .going .budgeting (plan.opening rotation (s.read w).now)⟩) ∨
      ∃ f, ((s.read w).header w plan.header).1 = .error f ∧
        plan.start w s = ⟨((s.read w).header w plan.header).2, .failed f⟩)) := by
  unfold Plan.start
  cases found : Rotation.ofList? plan.candidates with
  | none => exact Or.inl ⟨Rotation.ofList?_eq_none found, by simp⟩
  | some rotation =>
    refine Or.inr ⟨rotation, rfl, ?_⟩
    cases written : (s.read w).header w plan.header with
    | mk result after =>
      cases result with
      | ok u => exact Or.inl ⟨rfl, by simp [written, Plan.opening]⟩
      | error f => exact Or.inr ⟨f, rfl, by simp [written]⟩

/-! ### Every step is a move -/

theorem moving_moves {plan : Plan} {w : World} {s : Scene} {p : Progress}
    (live : s.cancelled = false) (free : (p.pacing.check (s.read w).now).free = true) :
    Move plan w ⟨s, .going .probing p⟩ (Plan.moving w p (s.read w)) := by
  unfold Plan.moving
  cases due : p.moveOn with
  | false => exact Move.cleared live free due
  | true =>
    cases last : p.rotation.atLast with
    | false => exact Move.movedOn live free due last
    | true => exact Move.wrapped live free due last

theorem probe_moves {plan : Plan} {w : World} {s : Scene} {p : Progress}
    (live : s.cancelled = false) :
    Move plan w ⟨s, .going .probing p⟩ (Plan.probe w p s) := by
  unfold Plan.probe
  cases free : (p.pacing.check (s.read w).now).free with
  | true => simpa only [free, if_true] using moving_moves live free
  | false => simpa only [free, Bool.false_eq_true, if_false] using Move.held live free

theorem answered_eq_noting (plan : Plan) (w : World) (startedAt : Span) (reply : Reply)
    (p : Progress) (s : Scene) :
    plan.answered w startedAt reply p s =
      let heard := s.heard w (p.rotation.current, p.count + 1) reply
      let verdict := plan.markers.verdict reply.answer
      noting w (resultLevel verdict)
        (resultMessage (p.count + 1) p.rotation.current.label verdict)
        ((p.kept (p.attempt startedAt heard.now verdict)).following (p.count + 1) verdict)
        heard := by
  unfold Plan.answered
  cases plan.markers.verdict reply.answer <;> rfl

theorem answered_moves {plan : Plan} {w : World} {s : Scene} {p : Progress} {startedAt : Span} :
    Move plan w ⟨s, .going (.calling startedAt) p⟩
      (plan.answered w startedAt (w.call s.calls.length s.now p.rotation.current) p s) := by
  rw [answered_eq_noting]
  exact Move.answered rfl rfl rfl

theorem tally_moves {plan : Plan} {w : World} {s : Scene} {p : Progress} :
    Move plan w ⟨s, .going .tallying p⟩ (plan.tally w p s) := by
  unfold Plan.tally
  dsimp only
  split
  · rename_i between
    refine Move.untallied ?_
    rintro ⟨some, sums⟩
    have remainder := Nat.mod_eq_zero_of_dvd sums
    omega
  · rename_i due
    refine Move.tallied ⟨?_, Nat.dvd_of_mod_eq_zero ?_⟩ <;> omega

theorem settle_moves {plan : Plan} {w : World} {s : Scene} {p : Progress}
    (live : s.cancelled = false) :
    Move plan w ⟨s, .going .settling p⟩ (plan.settle w p s) := by
  unfold Plan.settle
  cases bound : p.deadline with
  | none =>
    cases last : p.rotation.atLast with
    | true => exact Move.exhausted live bound last
    | false => exact Move.passGoesOn live bound last
  | some d =>
    simp only [unlessPast, bound]
    split
    · rename_i early
      exact Move.waits live bound early
    · rename_i late
      exact Move.late bound late (Or.inl ⟨rfl, live⟩)

theorem slept_moves {plan : Plan} {w : World} {s : Scene} {p : Progress} {d : Span} :
    Move plan w ⟨s, .going (.waiting d) p⟩
      (Plan.slept d (w.sleep s.sleeps.length s.now d) p s) := by
  unfold Plan.slept
  dsimp only
  split
  · rename_i cancels
    exact Move.roused rfl cancels
  · rename_i whole
    exact Move.slept rfl (by simpa using whole)

theorem woken_moves {plan : Plan} {w : World} {s : Scene} {p : Progress} :
    Move plan w ⟨s, .going .woken p⟩
      (unlessPast w p s fun s => ⟨s, .going .probing p⟩) := by
  cases bound : p.deadline with
  | none => simpa only [unlessPast, bound] using Move.wokenUnlimited bound
  | some d =>
    simp only [unlessPast, bound]
    split
    · rename_i early
      exact Move.wokenInTime bound early
    · rename_i late
      exact Move.late bound late (Or.inr rfl)

theorem budget_moves {plan : Plan} {w : World} {s : Scene} {p : Progress} :
    Move plan w ⟨s, .going .budgeting p⟩ (Plan.budget w p s) := by
  cases bound : p.deadline with
  | none => simpa only [Plan.budget, bound] using Move.unlimited bound
  | some d =>
    simp only [Plan.budget, bound]
    split
    · rename_i early
      exact Move.inBudget bound early
    · rename_i late
      exact Move.spent bound late

theorem step_moves (plan : Plan) (w : World) (st : State) : Move plan w st (plan.step w st) := by
  obtain ⟨s, phase⟩ := st
  cases phase with
  | going stage p =>
    cases stage with
    | budgeting => exact budget_moves
    | probing =>
      cases cancelled : s.cancelled with
      | true => simpa [Plan.step, cancelled] using Move.interrupted cancelled (Or.inl rfl)
      | false => simpa [Plan.step, cancelled] using probe_moves cancelled
    | starting =>
      cases cancelled : s.cancelled with
      | true =>
        simpa [Plan.step, cancelled] using Move.interrupted cancelled (Or.inr (Or.inl rfl))
      | false => simpa [Plan.step, cancelled] using Move.announced cancelled
    | calling startedAt => exact answered_moves
    | tallying => exact tally_moves
    | settling =>
      cases cancelled : s.cancelled with
      | true =>
        simpa [Plan.step, cancelled] using Move.interrupted cancelled (Or.inr (Or.inr rfl))
      | false => simpa [Plan.step, cancelled] using settle_moves cancelled
    | waiting d => exact slept_moves
    | woken => exact woken_moves
  | closing o attempts wraps startedAt => exact Move.closed
  | finished r => exact Move.rests
  | failed f => exact Move.stuck

theorem finished_move {plan : Plan} {w : World} {st st' : State} (move : Move plan w st st')
    {r : RunReport} (finished : st'.phase = .finished r) : st.phase = .finished r ∨
      ∃ attempts wraps startedAt, st.phase = .closing r.outcome attempts wraps startedAt := by
  have noted : ∀ level message next s, next ≠ .finished r →
      (noting w level message next s).phase ≠ .finished r := by
    intro level message next s other
    rcases noting_cases w level message next s with ⟨_, eq⟩ | ⟨f, _, eq⟩ <;> rw [eq]
    · exact other
    · nofun
  have paused : ∀ d p s, (pausing d p s).phase ≠ .finished r := by
    intro d p s
    unfold pausing
    split
    · nofun
    · split <;> nofun
  cases move with
  | spent | wrapped | tallied | exhausted | late => exact absurd finished (noted _ _ _ _ nofun)
  | @answered s p t reply verdict heard =>
    exact absurd finished (noted _ _ _ _ (by cases verdict <;> nofun))
  | held | waits => exact absurd finished (paused _ _ _)
  | @announced s p live =>
    rcases announce_cases w p s with ⟨_, eq⟩ | ⟨f, _, eq⟩ <;> rw [eq] at finished <;> contradiction
  | @closed s o attempts wraps startedAt =>
    rcases close_cases w o attempts wraps startedAt s with ⟨_, eq⟩ | ⟨f, _, eq⟩ <;>
      rw [eq] at finished
    · cases finished
      exact Or.inr ⟨_, _, _, rfl⟩
    · contradiction
  | rests => exact Or.inl finished
  | _ => contradiction

theorem start_unfinished {plan : Plan} {w : World} {before : Scene} (r : RunReport) :
    (plan.start w before).phase ≠ .finished r := by
  rcases start_cases plan w before with ⟨_, eq⟩ | ⟨rotation, _, ⟨_, eq⟩ | ⟨f, _, eq⟩⟩ <;> rw [eq]
  · rcases noting_cases w .crit (preflightMessage noCandidates) _ _ with ⟨_, eq⟩ | ⟨f, _, eq⟩ <;>
      rw [eq] <;> nofun
  · nofun
  · nofun

end BookingRetry.Run
