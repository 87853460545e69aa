import BookingRetry.Proofs.Run.Course
import BookingRetry.Proofs.Run.Observed

/-!
A run whose log file holds something already. It does what it would do on an empty file with as
much room in it, and what the file held stays in front of what the run writes.
-/
namespace BookingRetry

namespace Log

def Sink.behind (front : Bytes) (s : Sink) : Sink :=
  { s with bytes := front ++ s.bytes, limit := s.limit.map (front.length + ·) }

def Journal.behind (front : Bytes) (j : Journal) : Journal :=
  { j with sink := j.sink.behind front }

variable (front : Bytes)

theorem Sink.append_behind (s : Sink) (bs : Bytes) :
    (s.behind front).append bs = ((s.append bs).1, (s.append bs).2.behind front) := by
  obtain ⟨bytes, limit, faults, syncFault, writes⟩ := s
  simp only [append, behind]
  cases faults writes with
  | some f => rfl
  | none =>
    cases limit with
    | none => simp
    | some most =>
      have room : (front ++ bytes).length + bs.length ≤ front.length + most ↔
          bytes.length + bs.length ≤ most := by
        rw [List.length_append]
        omega
      have left : front.length + most - (front ++ bytes).length = most - bytes.length := by
        rw [List.length_append]
        omega
      simp only [Option.map_some, room, left]
      split <;> simp

theorem Sink.sealed_behind (s : Sink) : (s.behind front).sealed = s.sealed.behind front := by
  simp [sealed, behind]

theorem Journal.write_behind (j : Journal) (line : Text) :
    (j.behind front).write line = ((j.write line).1, (j.write line).2.behind front) := by
  obtain ⟨sink, opened, mirror⟩ := j
  cases opened with
  | true => simp [write, behind, Sink.append_behind]
  | false => rfl

theorem Journal.rawAll_behind (ts : List Text) (j : Journal) :
    rawAll ts (j.behind front) = ((rawAll ts j).1, (rawAll ts j).2.behind front) := by
  induction ts generalizing j with
  | nil => rfl
  | cons t ts ih =>
    simp only [rawAll, raw, write_behind]
    cases j.write (Text.folded t) with
    | mk result after =>
      cases result with
      | error f => rfl
      | ok u => exact ih after

theorem Journal.close_behind (j : Journal) :
    (j.behind front).close = ((j.close).1, (j.close).2.behind front) := by
  obtain ⟨sink, opened, mirror⟩ := j
  cases opened <;> rfl

/-! ### Room -/

def Sink.Fits (s : Sink) : Prop := ∀ most, s.limit = some most → s.bytes.length ≤ most

def Sink.emptied (s : Sink) : Sink :=
  { s with bytes := [], limit := s.limit.map (· - s.bytes.length) }

def Journal.emptied (j : Journal) : Journal := { j with sink := j.sink.emptied }

theorem Sink.emptied_behind {s : Sink} (fits : s.Fits) : s.emptied.behind s.bytes = s := by
  obtain ⟨bytes, limit, faults, syncFault, writes⟩ := s
  cases limit with
  | none => simp [emptied, behind]
  | some most =>
    have room : bytes.length ≤ most := fits most rfl
    have same : bytes.length + (most - bytes.length) = most := by omega
    simp [emptied, behind, same]

theorem Sink.emptied_fits (s : Sink) : s.emptied.Fits := fun _ _ => Nat.zero_le _

theorem Sink.append_fits {s : Sink} (fits : s.Fits) (bs : Bytes) : (s.append bs).2.Fits := by
  obtain ⟨bytes, limit, faults, syncFault, writes⟩ := s
  simp only [append]
  cases faults writes with
  | some f => exact fits
  | none =>
    cases limit with
    | none => nofun
    | some most =>
      have room : bytes.length ≤ most := fits most rfl
      dsimp only
      split
      · rename_i enough
        rintro _ ⟨⟩
        rwa [List.length_append]
      · rintro _ ⟨⟩
        simp only [List.length_append, List.length_take]
        omega

theorem Sink.append_full {s : Sink} (full : ¬s.Fits) {bs : Bytes} (some : bs ≠ []) :
    ∃ f, (s.append bs).1 = .error f := by
  have positive : 0 < bs.length := List.length_pos_iff.mpr some
  obtain ⟨bytes, limit, faults, syncFault, writes⟩ := s
  simp only [append]
  cases faults writes with
  | some f => exact ⟨f, rfl⟩
  | none =>
    cases limit with
    | none => exact absurd (fun _ => nofun) full
    | some most =>
      have past : ¬bytes.length + bs.length ≤ most := by
        intro enough
        apply full
        rintro _ ⟨⟩
        simp only
        omega
      exact ⟨.tooLarge, by simp only [if_neg past]⟩

theorem Journal.write_fits {j : Journal} (fits : j.sink.Fits) (line : Text) :
    (j.write line).2.sink.Fits := by
  unfold write
  dsimp only
  split
  · exact Sink.append_fits fits _
  · exact fits

theorem Journal.rawAll_fits {j : Journal} (fits : j.sink.Fits) (ts : List Text) :
    (rawAll ts j).2.sink.Fits := by
  induction ts generalizing j with
  | nil => exact fits
  | cons t ts ih =>
    have first := write_fits fits (Text.folded t)
    simp only [rawAll, raw]
    cases wrote : j.write (Text.folded t) with
    | mk result after =>
      rw [wrote] at first
      cases result with
      | error f => exact first
      | ok u => exact ih first

theorem Journal.write_full {j : Journal} (opened : j.isOpen = true) (full : ¬j.sink.Fits)
    (line : Text) : ∃ f, (j.write line).1 = .error f := by
  unfold write
  simp only [opened, if_true]
  exact Sink.append_full full (encodeLine_nonempty line)

end Log

namespace Run

def Scene.behind (front : Bytes) (s : Scene) : Scene :=
  { s with journal := s.journal.behind front }

def State.behind (front : Bytes) (st : State) : State := { st with scene := st.scene.behind front }

variable {plan : Plan} {w : World} {front : Bytes} (s : Scene)

@[simp] theorem read_behind : (s.behind front).read w = (s.read w).behind front := rfl

@[simp] theorem behind_now : (s.behind front).now = s.now := rfl

@[simp] theorem behind_cancelled : (s.behind front).cancelled = s.cancelled := rfl

theorem behind_mk (phase : Phase) :
    State.behind front ⟨s, phase⟩ = ⟨s.behind front, phase⟩ := rfl

theorem record_behind (level : Log.Level) (message : Text) :
    (s.behind front).record w level message =
      ((s.record w level message).1, (s.record w level message).2.behind front) := by
  simp only [Scene.record, Scene.behind, Log.Journal.record, Log.Journal.write_behind]

theorem header_behind (h : Log.Header) :
    (s.behind front).header w h = ((s.header w h).1, (s.header w h).2.behind front) := by
  simp only [Scene.header, Scene.behind, Log.Journal.header, Log.Journal.rawAll_behind]

theorem after_behind (passed : Span) (cancels breaksLog : Bool) :
    (s.behind front).after passed cancels breaksLog =
      (s.after passed cancels breaksLog).behind front := by
  cases breaksLog with
  | true => simp [Scene.after, Scene.behind, Log.Journal.behind, Log.Sink.sealed_behind]
  | false => rfl

theorem noting_behind (level : Log.Level) (message : Text) (next : Phase) :
    noting w level message next (s.behind front) =
      (noting w level message next s).behind front := by
  unfold noting
  rw [record_behind]
  cases s.record w level message with
  | mk result after => cases result <;> rfl

theorem pausing_behind (d : Span) (p : Progress) :
    pausing d p (s.behind front) = (pausing d p s).behind front := by
  simp only [pausing, behind_cancelled, apply_ite (State.behind front), behind_mk]
  rfl

theorem unlessPast_behind (p : Progress) {next : Scene → State}
    (onward : ∀ s : Scene, next (s.behind front) = (next s).behind front) :
    unlessPast w p (s.behind front) next = (unlessPast w p s next).behind front := by
  unfold unlessPast
  cases p.deadline with
  | none => exact onward s
  | some deadline =>
    simp only [read_behind, behind_now, onward, noting_behind, apply_ite (State.behind front)]

theorem announce_behind (p : Progress) :
    Plan.announce w p (s.behind front) = (Plan.announce w p s).behind front := by
  unfold Plan.announce
  simp only [record_behind]
  cases s.record w .info
      (startMessage (p.count + 1) p.rotation.current.label (p.rotation.index + 1)
        p.rotation.size) with
  | mk result after => cases result <;> rfl

theorem moving_behind (p : Progress) :
    Plan.moving w p (s.behind front) = (Plan.moving w p s).behind front := by
  simp only [Plan.moving, noting_behind, apply_ite (State.behind front), behind_mk]

theorem budget_behind (p : Progress) :
    Plan.budget w p (s.behind front) = (Plan.budget w p s).behind front := by
  unfold Plan.budget
  cases p.deadline with
  | none => rfl
  | some deadline =>
    simp only [read_behind, behind_now, noting_behind, apply_ite (State.behind front), behind_mk]

theorem probe_behind (p : Progress) :
    Plan.probe w p (s.behind front) = (Plan.probe w p s).behind front := by
  simp only [Plan.probe, read_behind, behind_now, moving_behind, pausing_behind,
    apply_ite (State.behind front)]

theorem answered_behind (startedAt : Span) (reply : Reply) (p : Progress) :
    plan.answered w startedAt reply p (s.behind front) =
      (plan.answered w startedAt reply p s).behind front := by
  have heard (called : Candidate × Nat) :
      (s.behind front).heard w called reply = (s.heard w called reply).behind front :=
    congrArg (Scene.read w)
      (after_behind { s with calls := s.calls ++ [called] } reply.latency reply.cancels
        reply.breaksLog)
  simp only [answered_eq_noting, heard, behind_now, noting_behind]

theorem tally_behind (p : Progress) :
    plan.tally w p (s.behind front) = (plan.tally w p s).behind front := by
  simp only [Plan.tally, read_behind, behind_now, noting_behind, apply_ite (State.behind front),
    behind_mk]

theorem settle_behind (p : Progress) :
    plan.settle w p (s.behind front) = (plan.settle w p s).behind front := by
  unfold Plan.settle
  cases p.deadline with
  | none => simp only [noting_behind, apply_ite (State.behind front), behind_mk]
  | some d => exact unlessPast_behind s p fun s => pausing_behind s _ _

theorem slept_behind (d : Span) (nap : Nap) (p : Progress) :
    Plan.slept d nap p (s.behind front) = (Plan.slept d nap p s).behind front := by
  have rested : (s.behind front).rested d nap = (s.rested d nap).behind front :=
    after_behind { s with sleeps := s.sleeps ++ [d] } nap.passed nap.cancels nap.breaksLog
  unfold Plan.slept
  split
  · exact congrArg (State.mk · p.interrupted) rested
  · exact congrArg (State.mk · (.going .woken p)) rested

theorem writeFinal_behind (o : Outcome) :
    Plan.writeFinal w o (s.behind front) =
      ((Plan.writeFinal w o s).1, (Plan.writeFinal w o s).2.behind front) := by
  unfold Plan.writeFinal
  cases o with
  | interrupted n =>
    simp only [record_behind]
    cases s.record w .warn interruptedMessage with
    | mk result after =>
      cases result with
      | error f => rfl
      | ok u => exact record_behind _ _ _
  | success | timeout | fatalInput | exhausted => exact record_behind _ _ _

theorem conclude_behind (o : Outcome) :
    Plan.conclude w o (s.behind front) =
      ((Plan.conclude w o s).1, (Plan.conclude w o s).2.behind front) := by
  rw [conclude_eq_close, conclude_eq_close, writeFinal_behind]
  cases Plan.writeFinal w o s with
  | mk result after =>
    cases result with
    | error f => rfl
    | ok u => simp only [Scene.close, Scene.behind, Log.Journal.close_behind]

theorem close_behind (o : Outcome) (attempts : List Attempt) (wraps : Nat) (startedAt : Span) :
    Plan.close w o attempts wraps startedAt (s.behind front) =
      (Plan.close w o attempts wraps startedAt s).behind front := by
  unfold Plan.close
  simp only [conclude_behind]
  cases Plan.conclude w o s with
  | mk result after => cases result <;> cases o <;> rfl

theorem start_behind :
    plan.start w (s.behind front) = (plan.start w s).behind front := by
  unfold Plan.start
  simp only [read_behind, behind_now]
  split
  · exact noting_behind _ _ _ _
  · simp only [header_behind]
    cases (s.read w).header w plan.header with
    | mk result after => cases result <;> rfl

theorem step_behind (st : State) :
    plan.step w (st.behind front) = (plan.step w st).behind front := by
  obtain ⟨s, phase⟩ := st
  cases phase with
  | going stage p =>
    cases stage with
    | budgeting => exact budget_behind s p
    | probing =>
      simp only [Plan.step, behind_mk, behind_cancelled, probe_behind,
        apply_ite (State.behind front)]
    | starting =>
      simp only [Plan.step, behind_mk, behind_cancelled, announce_behind,
        apply_ite (State.behind front)]
    | settling =>
      simp only [Plan.step, behind_mk, behind_cancelled, settle_behind,
        apply_ite (State.behind front)]
    | calling startedAt => exact answered_behind s startedAt _ p
    | tallying => exact tally_behind s p
    | waiting d => exact slept_behind s d _ p
    | woken =>
      let next (s : Scene) : State := ⟨s, .going .probing p⟩
      have onward (s : Scene) : next (s.behind front) = (next s).behind front := rfl
      exact unlessPast_behind s p onward
  | closing o attempts wraps startedAt => exact close_behind s o attempts wraps startedAt
  | finished r => rfl
  | failed f => rfl

/-- A run on a file that holds something adds what it would write to an empty one. -/
theorem alarmedRun_behind (alarms : Nat → Bool) (n : Nat) :
    plan.alarmedRun w alarms n (s.behind front) =
      (plan.alarmedRun w alarms n s).behind front := by
  induction n with
  | zero => exact start_behind s
  | succ n ih =>
    rw [Plan.alarmedRun, ih]
    exact step_behind ((plan.alarmedRun w alarms n s).alarmed (alarms n))

theorem marking?_behind (st : State) : (st.behind front).marking? w = st.marking? w := by
  obtain ⟨s, phase⟩ := st
  cases phase with
  | closing o attempts wraps startedAt =>
    simp only [State.marking?, behind_mk, writeFinal_behind]
  | going | finished | failed => rfl

def Scene.emptied (s : Scene) : Scene := { s with journal := s.journal.emptied }

theorem emptied_behind {s : Scene} (fits : s.journal.sink.Fits) :
    s.emptied.behind s.bytes = s := by
  have same := Log.Sink.emptied_behind fits
  obtain ⟨now, readings, cancelled, stamps, ⟨sink, opened, mirror⟩, calls, sleeps⟩ := s
  simp only [Scene.emptied, Scene.behind, Log.Journal.emptied, Log.Journal.behind, Scene.bytes] at *
  rw [same]

theorem alarmedRun_onto {before : Scene} (fits : (plan.start w before).scene.journal.sink.Fits)
    (alarms : Nat → Bool) (n : Nat) :
    ∃ st : State, plan.alarmedRun w alarms n before =
      st.behind (plan.start w before).scene.bytes := by
  induction n with
  | zero =>
    refine ⟨⟨(plan.start w before).scene.emptied, (plan.start w before).phase⟩, ?_⟩
    rw [behind_mk, emptied_behind fits]
    rfl
  | succ n ih =>
    obtain ⟨st, same⟩ := ih
    refine ⟨plan.step w (st.alarmed (alarms n)), ?_⟩
    rw [Plan.alarmedRun, same]
    exact step_behind (st.alarmed (alarms n))

end Run

end BookingRetry
