import BookingRetry.Proofs.Observer
import BookingRetry.Proofs.Run.Logging
import BookingRetry.Proofs.Run.Report

/-!
What an observer of its log learns about a run: that it goes on until its marker has been written,
and from then on how it ended, whatever a vendor, a candidate or the header put into the log.
-/
namespace BookingRetry.Run

def State.marking? (w : World) (st : State) : Option Outcome :=
  match st.phase with
  | .closing o _ _ _ =>
    match (Plan.writeFinal w o st.scene).1 with
    | .ok () => some o
    | .error _ => none
  | _ => none

/-- The outcome whose marker a run has written within so many steps, if it has written one. Its
token may become cancelled before any step. -/
def Plan.markedUnder? (plan : Plan) (w : World) (alarms : Nat → Bool) (before : Scene) :
    Nat → Option Outcome
  | 0 => none
  | n + 1 => (plan.markedUnder? w alarms before n).or
      (((plan.alarmedRun w alarms n before).alarmed (alarms n)).marking? w)

def Scene.bytes (s : Scene) : Bytes := s.journal.sink.bytes

def Scene.LogUnmarked (s : Scene) : Prop :=
  s.journal.isOpen = true ∧ ∃ whole, Log.Holds s.bytes whole [] ∧ ∀ l ∈ whole, Unmarked l

def Scene.LogSilent (s : Scene) : Prop :=
  ∃ whole part, Log.Holds s.bytes whole part ∧ ∀ l ∈ whole, Unmarked l

/-- The last line of the log is the marker of an outcome. -/
def Scene.LogMarked (s : Scene) (o : Outcome) : Prop :=
  ∃ body, ∃ r : Log.Record, Log.Holds s.bytes (body ++ [r.written]) [] ∧ r.message = o.marker ∧
    ∀ l ∈ body, Unmarked l

def Scene.LogTells (before s : Scene) : Option Outcome → Prop
  | none => s.LogSilent
  | some o => s.LogMarked o ∧ o.attempts = (s.callsSince before).length

/-- What the log of a run tells that has written some marker, or none. -/
def Telling (before : Scene) (marked : Option Outcome) (st : State) : Prop :=
  match st.phase with
  | .going _ _ => marked = none ∧ st.scene.LogUnmarked
  | .closing _ _ _ _ => marked = none ∧ st.scene.LogUnmarked
  | .finished _ => before.LogTells st.scene marked
  | .failed _ => before.LogTells st.scene marked

def Counted (before : Scene) (st : State) : Prop :=
  match st.phase with
  | .going stage p => st.scene.calls.length = before.calls.length + p.count ∧
      (stage = .budgeting → p.count = 0)
  | .closing o _ _ _ => st.scene.calls.length = before.calls.length + o.attempts
  | .finished _ => True
  | .failed _ => True

variable {plan : Plan} {w : World} {alarms : Nat → Bool} {before s s' : Scene} {st st' : State}

/-! ### Writing -/

theorem record_unmarked (h : s.LogUnmarked) {level : Log.Level} {message : Text}
    (plain : message.opensPlainly = true) :
    ((s.record w level message).1 = .ok () ∧ (s.record w level message).2.LogUnmarked) ∨
    ∃ f, (s.record w level message).1 = .error f ∧ (s.record w level message).2.LogSilent := by
  obtain ⟨opened, whole, holds, silent⟩ := h
  have line : Unmarked (Log.Record.written ⟨w.stamp s.stamps, level, Text.folded message⟩) :=
    unmarked_record plain
  obtain ⟨still, ⟨written, longer⟩ | ⟨f, part, failed, torn⟩⟩ :=
    Log.Journal.write_cases opened holds line.single
  · refine Or.inl ⟨written, still, _, longer, ?_⟩
    intro l member
    rcases List.mem_append.mp member with old | new
    · exact silent l old
    · rwa [List.mem_singleton.mp new]
  · exact Or.inr ⟨f, failed, whole, part, torn, silent⟩

theorem unmarked_of_ok {level : Log.Level} {message : Text} (h : s.LogUnmarked)
    (plain : message.opensPlainly = true) (written : (s.record w level message).1 = .ok ()) :
    (s.record w level message).2.LogUnmarked := by
  rcases record_unmarked h plain with ⟨_, unmarked⟩ | ⟨f, failed, _⟩
  · exact unmarked
  · rw [written] at failed
    contradiction

theorem silent_of_error {level : Log.Level} {message : Text} {f : FileFault} (h : s.LogUnmarked)
    (plain : message.opensPlainly = true) (failed : (s.record w level message).1 = .error f) :
    (s.record w level message).2.LogSilent := by
  rcases record_unmarked h plain with ⟨written, _⟩ | ⟨_, _, silent⟩
  · rw [written] at failed
    contradiction
  · exact silent

theorem record_marker (h : s.LogUnmarked) (o : Outcome) :
    ((s.record w o.level o.marker).1 = .ok () ∧ (s.record w o.level o.marker).2.LogMarked o) ∨
    ∃ f, (s.record w o.level o.marker).1 = .error f ∧
      (s.record w o.level o.marker).2.LogSilent := by
  obtain ⟨opened, whole, holds, silent⟩ := h
  have single := Text.folded_single o.marker
  have line : Text.Single
      (Log.Record.written ⟨w.stamp s.stamps, o.level, Text.folded o.marker⟩) :=
    Log.written_single single
  obtain ⟨_, ⟨written, longer⟩ | ⟨f, part, failed, torn⟩⟩ :=
    Log.Journal.write_cases opened holds line
  · exact Or.inl ⟨written, whole, _, longer, Outcome.folded_marker o, silent⟩
  · exact Or.inr ⟨f, failed, whole, part, torn, silent⟩

theorem writeFinal_tells (h : s.LogUnmarked) (o : Outcome) :
    ((Plan.writeFinal w o s).1 = .ok () ∧ (Plan.writeFinal w o s).2.LogMarked o) ∨
    ∃ f, (Plan.writeFinal w o s).1 = .error f ∧ (Plan.writeFinal w o s).2.LogSilent := by
  unfold Plan.writeFinal
  cases o with
  | interrupted n =>
    have first := @record_unmarked w s h .warn interruptedMessage rfl
    cases noted : s.record w .warn interruptedMessage with
    | mk result after =>
      rw [noted] at first
      rcases first with ⟨written, unmarked⟩ | ⟨f, failed, silent⟩
      · cases written
        exact record_marker unmarked _
      · cases failed
        exact Or.inr ⟨f, rfl, silent⟩
  | success | timeout | fatalInput | exhausted => exact record_marker h _

theorem conclude_bytes (o : Outcome) (s : Scene) :
    (Plan.conclude w o s).2.bytes = (Plan.writeFinal w o s).2.bytes := by
  rw [conclude_eq_close]
  cases told : Plan.writeFinal w o s with
  | mk result after =>
    cases result with
    | error f => rfl
    | ok u =>
      show (after.journal.close).2.sink.bytes = after.journal.sink.bytes
      unfold Log.Journal.close
      split <;> rfl

theorem conclude_error {o : Outcome} {f : FileFault}
    (failed : (Plan.writeFinal w o s).1 = .error f) : (Plan.conclude w o s).1 = .error f := by
  rw [conclude_eq_close]
  cases told : Plan.writeFinal w o s with
  | mk result after =>
    rw [told] at failed
    cases failed
    rfl

/-! ### Every move -/

theorem noting_telling {level : Log.Level} {message : Text} {next : Phase} (h : s.LogUnmarked)
    (plain : message.opensPlainly = true)
    (goes : ∀ s', s'.LogUnmarked → Telling before none ⟨s', next⟩) :
    Telling before none (noting w level message next s) := by
  rcases noting_cases w level message next s with ⟨written, eq⟩ | ⟨f, failed, eq⟩ <;> rw [eq]
  · exact goes _ (unmarked_of_ok h plain written)
  · exact silent_of_error h plain failed

theorem announce_telling {p : Progress} (h : s.LogUnmarked) :
    Telling before none (Plan.announce w p s) := by
  rcases announce_cases w p s with ⟨written, eq⟩ | ⟨f, failed, eq⟩ <;> rw [eq]
  · exact ⟨rfl, unmarked_of_ok h rfl written⟩
  · exact silent_of_error h rfl failed

theorem pausing_telling {d : Span} {p : Progress} (h : s.LogUnmarked) (live : s.cancelled = false) :
    Telling before none (pausing d p s) := by
  rcases pausing_cases d p live with ⟨_, eq⟩ | ⟨_, eq⟩ <;> rw [eq] <;> exact ⟨rfl, h⟩

theorem heard_unmarked {called : Candidate × Nat} {reply : Reply} (h : s.LogUnmarked) :
    (s.heard w called reply).LogUnmarked := by
  unfold Scene.heard Scene.after
  cases reply.breaksLog <;> exact h

theorem rested_unmarked {d : Span} {nap : Nap} (h : s.LogUnmarked) :
    (s.rested d nap).LogUnmarked := by
  unfold Scene.rested Scene.after
  cases nap.breaksLog <;> exact h

theorem resultMessage_plain (number : Nat) (label : Text) (verdict : Verdict) :
    (resultMessage number label verdict).opensPlainly = true := by
  cases verdict <;> rfl

theorem following_telling {p : Progress} {number : Nat} {verdict : Verdict} (h : s.LogUnmarked) :
    Telling before none ⟨s, p.following number verdict⟩ := by
  cases verdict <;> exact ⟨rfl, h⟩

theorem close_telling {o : Outcome} {attempts : List Attempt} {wraps : Nat} {startedAt : Span}
    (h : s.LogUnmarked) (count : o.attempts = (s.callsSince before).length) :
    Telling before (State.marking? w ⟨s, .closing o attempts wraps startedAt⟩)
      (Plan.close w o attempts wraps startedAt s) := by
  have since : (Plan.conclude w o s).2.callsSince before = s.callsSince before := by
    simp [Scene.callsSince]
  have bytes := @conclude_bytes w o s
  have tells : before.LogTells (Plan.conclude w o s).2
      (State.marking? w ⟨s, .closing o attempts wraps startedAt⟩) := by
    unfold State.marking?
    rcases @writeFinal_tells w s h o with ⟨written, marked⟩ | ⟨f, failed, silent⟩
    · simp only [written]
      refine ⟨?_, by rw [since]; exact count⟩
      unfold Scene.LogMarked at marked ⊢
      rwa [bytes]
    · simp only [failed]
      show (Plan.conclude w o s).2.LogSilent
      unfold Scene.LogSilent at silent ⊢
      rwa [bytes]
  rcases close_cases w o attempts wraps startedAt s with ⟨_, eq⟩ | ⟨f, _, eq⟩ <;> rw [eq]
  · exact tells
  · exact tells

theorem start_telling (opened : before.journal.isOpen = true) (empty : before.bytes = []) :
    Telling before none (plan.start w before) := by
  have nothing : Log.Holds before.bytes [] [] := by
    rw [empty]
    exact ⟨rfl, nofun, nofun⟩
  have fresh : (before.read w).LogUnmarked := ⟨opened, [], nothing, nofun⟩
  have header : (((before.read w).header w plan.header).2).journal.isOpen = true ∧ _ :=
    Log.Journal.rawAll_cases opened nothing nofun
      (Log.Header.lines_unmarked plan.header (w.stamp (before.read w).stamps))
  obtain ⟨still, whole, part, silent, holds, complete⟩ := header
  rcases start_cases plan w before with ⟨_, eq⟩ | ⟨rotation, _, ⟨written, eq⟩ | ⟨f, _, eq⟩⟩ <;>
    rw [eq]
  · exact noting_telling fresh rfl fun s' unmarked => ⟨rfl, unmarked⟩
  · rw [complete written] at holds
    exact ⟨rfl, still, whole, holds, silent⟩
  · exact ⟨whole, part, holds, silent⟩

theorem telling_move {marked : Option Outcome} (move : Move plan w st st')
    (counted : ∀ o attempts wraps startedAt, st.phase = .closing o attempts wraps startedAt →
      o.attempts = (st.scene.callsSince before).length) (h : Telling before marked st) :
    Telling before (marked.or (st.marking? w)) st' := by
  cases move with
  | unlimited | inBudget | interrupted | cleared | movedOn | untallied | passGoesOn
  | wokenUnlimited | wokenInTime =>
    obtain ⟨rfl, unmarked⟩ := h
    exact ⟨rfl, unmarked⟩
  | spent | wrapped | tallied | exhausted | late =>
    obtain ⟨rfl, unmarked⟩ := h
    exact noting_telling unmarked rfl fun s' later => ⟨rfl, later⟩
  | held live busy =>
    obtain ⟨rfl, unmarked⟩ := h
    exact pausing_telling unmarked live
  | waits live bounded early =>
    obtain ⟨rfl, unmarked⟩ := h
    exact pausing_telling unmarked live
  | announced live =>
    obtain ⟨rfl, unmarked⟩ := h
    exact announce_telling unmarked
  | answered replied judged passed =>
    obtain ⟨rfl, unmarked⟩ := h
    refine noting_telling ?_ (resultMessage_plain _ _ _) fun s' later => following_telling later
    rw [passed]
    exact heard_unmarked unmarked
  | roused napped cancels =>
    obtain ⟨rfl, unmarked⟩ := h
    exact ⟨rfl, rested_unmarked unmarked⟩
  | slept napped whole =>
    obtain ⟨rfl, unmarked⟩ := h
    exact ⟨rfl, rested_unmarked unmarked⟩
  | closed =>
    obtain ⟨rfl, unmarked⟩ := h
    exact close_telling unmarked (counted _ _ _ _ rfl)
  | rests =>
    rw [State.marking?, Option.or_none]
    exact h
  | stuck =>
    rw [State.marking?, Option.or_none]
    exact h

/-! ### The calls -/

theorem counted_alarmed {st : State} (h : Counted before st) (cancels : Bool) :
    Counted before (st.alarmed cancels) := by
  obtain ⟨s, phase⟩ := st
  cases phase <;> exact h

theorem counted_start : Counted before (plan.start w before) := by
  rcases start_cases plan w before with ⟨_, eq⟩ | ⟨rotation, _, ⟨_, eq⟩ | ⟨f, _, eq⟩⟩ <;> rw [eq]
  · exact noting_keeps (fun _ _ => trivial) fun s' _ _ calls => congrArg List.length calls
  · exact ⟨rfl, fun _ => rfl⟩
  · trivial

theorem pausing_counted {s : Scene} {d : Span} {p : Progress} (live : s.cancelled = false)
    (made : s.calls.length = before.calls.length + p.count) :
    Counted before (pausing d p s) := by
  rcases pausing_cases d p live with ⟨_, eq⟩ | ⟨_, eq⟩ <;> rw [eq] <;> exact ⟨made, nofun⟩

theorem following_counted {s : Scene} {p : Progress} {number : Nat} {verdict : Verdict}
    (same : p.count = number) (made : s.calls.length = before.calls.length + number) :
    Counted before ⟨s, p.following number verdict⟩ := by
  cases verdict with
  | success | fatal => exact made
  | retryable => exact ⟨same ▸ made, nofun⟩

theorem counted_move {st st' : State} (move : Move plan w st st') (h : Counted before st) :
    Counted before st' := by
  cases move with
  | unlimited | inBudget | cleared | movedOn | untallied | passGoesOn | slept | wokenUnlimited
  | wokenInTime => exact ⟨h.1, nofun⟩
  | interrupted | roused => exact h.1
  | spent =>
    refine noting_keeps (fun _ _ => trivial) fun s' _ _ calls => ?_
    have none := h.2 rfl
    have made := h.1
    rw [none] at made
    exact (congrArg List.length calls).trans made
  | wrapped | tallied =>
    refine noting_keeps (fun _ _ => trivial) fun s' _ _ calls => ?_
    exact ⟨(congrArg List.length calls).trans h.1, nofun⟩
  | exhausted | late =>
    refine noting_keeps (fun _ _ => trivial) fun s' _ _ calls => ?_
    exact (congrArg List.length calls).trans h.1
  | @held s p live => exact pausing_counted (s := s.read w) live h.1
  | @waits s p d live => exact pausing_counted (s := s.read w) live h.1
  | @announced s p live =>
    rcases announce_cases w p s with ⟨_, eq⟩ | ⟨f, _, eq⟩ <;> rw [eq]
    · exact ⟨h.1, nofun⟩
    · trivial
  | @answered s p startedAt reply verdict heard replied judged passed =>
    refine noting_keeps (fun _ _ => trivial) fun s' _ _ calls => ?_
    refine following_counted (p.count_kept _) ?_
    rw [calls, passed]
    show (s.calls ++ [_]).length = _
    rw [List.length_append, h.1]
    rfl
  | @closed s o attempts wraps startedAt =>
    rcases close_cases w o attempts wraps startedAt s with ⟨_, eq⟩ | ⟨f, _, eq⟩ <;> rw [eq] <;>
      trivial
  | rests | stuck => trivial

theorem Counted.closing {st : State} (h : Counted before st) {o : Outcome}
    {attempts : List Attempt} {wraps : Nat} {startedAt : Span}
    (closing : st.phase = .closing o attempts wraps startedAt) :
    o.attempts = (st.scene.callsSince before).length := by
  unfold Counted at h
  rw [closing] at h
  rw [Scene.callsSince, List.length_drop, h]
  omega

/-! ### Every state -/

theorem telling_alarmed {marked : Option Outcome} {st : State} (h : Telling before marked st)
    (cancels : Bool) : Telling before marked (st.alarmed cancels) := by
  obtain ⟨s, phase⟩ := st
  cases phase <;> exact h

theorem alarmedRun_tells (opened : before.journal.isOpen = true) (empty : before.bytes = [])
    (n : Nat) : Counted before (plan.alarmedRun w alarms n before) ∧
      Telling before (plan.markedUnder? w alarms before n) (plan.alarmedRun w alarms n before) := by
  induction n with
  | zero => exact ⟨counted_start, start_telling opened empty⟩
  | succ n ih =>
    obtain ⟨counted, telling⟩ := ih
    have move := step_moves plan w ((plan.alarmedRun w alarms n before).alarmed (alarms n))
    have counted := counted_alarmed counted (alarms n)
    have telling := telling_alarmed telling (alarms n)
    exact ⟨counted_move move counted,
      telling_move move (fun _ _ _ _ closing => counted.closing closing) telling⟩

theorem marked_of_finished (opened : before.journal.isOpen = true) (empty : before.bytes = [])
    (holds : plan.LogHoldsUnder w alarms before) {n : Nat} {r : RunReport}
    (finished : (plan.alarmedRun w alarms n before).phase = .finished r) :
    plan.markedUnder? w alarms before n = some r.outcome := by
  induction n with
  | zero => exact absurd finished (start_unfinished r)
  | succ n ih =>
    have move := step_moves plan w ((plan.alarmedRun w alarms n before).alarmed (alarms n))
    rw [Plan.markedUnder?]
    rcases finished_move move finished with already | ⟨attempts, wraps, startedAt, closing⟩
    · rw [ih already]
      rfl
    · obtain ⟨_, telling⟩ := @alarmedRun_tells plan w alarms before opened empty n
      have closing : (plan.alarmedRun w alarms n before).phase =
          .closing r.outcome attempts wraps startedAt := closing
      have concluded := (holds n).2 _ _ _ _ closing
      unfold Telling at telling
      rw [closing] at telling
      rw [telling.1, Option.none_or]
      unfold State.marking?
      rw [show ((plan.alarmedRun w alarms n before).alarmed (alarms n)).phase = _ from closing]
      cases told : (Plan.writeFinal w r.outcome
        ((plan.alarmedRun w alarms n before).alarmed (alarms n)).scene).1 with
      | ok u => simp only [told]
      | error f =>
        rw [conclude_error told] at concluded
        contradiction

/-- An observer of the log knows of the end of its run when the marker has been written, and not
before. -/
structure LogObserved (bytes : Bytes) (whole : List Text) (part : Bytes) (marked : Option Outcome) :
    Prop where
  holds : Log.Holds bytes whole part
  early : ∀ k < whole.length, ∀ shown,
    (TailReport.ofBytes shown (Log.encodeLines (whole.take k))).finalState = none
  latest : ∀ shown, (TailReport.ofBytes shown (Log.encodeLines whole)).finalState =
    marked.map Outcome.finalState

/-- One line of a log states an end, the last one, and it is the end that the run has come to. -/
def EndsWithMarker (bytes : Bytes) (o : Outcome) : Prop :=
  ∃ body last, Text.lines (Utf8.decodeLossy bytes) = body ++ [last] ∧
    FinalState.ofLine? last = some o.finalState ∧ ∀ l ∈ body, FinalState.ofLine? l = none

theorem observed_silent {bytes : Bytes} {whole : List Text} {part : Bytes}
    (holds : Log.Holds bytes whole part) (silent : ∀ l ∈ whole, Unmarked l) :
    LogObserved bytes whole part none := by
  refine ⟨holds, ?_, ?_⟩
  · intro k _ shown
    rw [TailReport.finalState_encodeLines fun l member =>
      holds.single l (List.mem_of_mem_take member)]
    exact TailReport.lastState?_unmarked fun l member => silent l (List.mem_of_mem_take member)
  · intro shown
    rw [TailReport.finalState_encodeLines holds.single]
    exact TailReport.lastState?_unmarked silent

theorem observed_marked {bytes : Bytes} {body : List Text} {last : Text} {o : Outcome}
    (holds : Log.Holds bytes (body ++ [last]) []) (silent : ∀ l ∈ body, Unmarked l)
    (marked : FinalState.ofLine? last = some o.finalState) :
    LogObserved bytes (body ++ [last]) [] (some o) := by
  refine ⟨holds, ?_, ?_⟩
  · intro k bound shown
    rw [List.length_append, List.length_singleton] at bound
    rw [List.take_append_of_le_length (Nat.le_of_lt_succ bound)]
    rw [TailReport.finalState_encodeLines fun l member =>
      (silent l (List.mem_of_mem_take member)).single]
    exact TailReport.lastState?_unmarked fun l member => silent l (List.mem_of_mem_take member)
  · intro shown
    rw [TailReport.finalState_encodeLines holds.single]
    exact TailReport.lastState?_concat body marked

theorem Telling.log {marked : Option Outcome} (h : Telling before marked st) :
    before.LogTells st.scene marked := by
  obtain ⟨s, phase⟩ := st
  cases phase with
  | going stage p =>
    obtain ⟨rfl, _, whole, holds, silent⟩ := h
    exact ⟨whole, [], holds, silent⟩
  | closing o attempts wraps startedAt =>
    obtain ⟨rfl, _, whole, holds, silent⟩ := h
    exact ⟨whole, [], holds, silent⟩
  | finished r => exact h
  | failed f => exact h

theorem marker_last {o : Outcome} (h : s.LogMarked o) (fits : o.attempts ≤ Numeral.maxWord) :
    ∃ body last, Log.Holds s.bytes (body ++ [last]) [] ∧
      FinalState.ofLine? last = some o.finalState ∧ ∀ l ∈ body, Unmarked l := by
  obtain ⟨body, r, holds, message, silent⟩ := h
  refine ⟨body, r.written, holds, ?_, silent⟩
  rw [FinalState.ofLine?_record, message, Outcome.read?_marker fits]

/-- Whatever a vendor answers and whenever its token becomes cancelled, at every step of a run whose
log was empty an observer of the lines of the log finds the outcome whose marker has been written,
and nothing before that; and a run that is finished with its log in order has exactly one marker at
the end of it. Attempts are counted in a word. -/
theorem log_observed (opened : before.journal.isOpen = true) (empty : before.bytes = []) (n : Nat)
    (counted : ((plan.alarmedRun w alarms n before).scene.callsSince before).length ≤
      Numeral.maxWord) :
    (∃ whole part, LogObserved (plan.alarmedRun w alarms n before).scene.bytes whole part
      (plan.markedUnder? w alarms before n)) ∧
    ∀ r, (plan.alarmedRun w alarms n before).phase = .finished r →
      plan.LogHoldsUnder w alarms before →
      plan.markedUnder? w alarms before n = some r.outcome ∧
        EndsWithMarker (plan.alarmedRun w alarms n before).scene.bytes r.outcome := by
  obtain ⟨_, telling⟩ := @alarmedRun_tells plan w alarms before opened empty n
  have log := telling.log
  constructor
  · cases marked : plan.markedUnder? w alarms before n with
    | none =>
      rw [marked] at log
      obtain ⟨whole, part, holds, silent⟩ := log
      exact ⟨whole, part, observed_silent holds silent⟩
    | some o =>
      rw [marked] at log
      obtain ⟨ended, count⟩ := log
      obtain ⟨body, last, holds, states, silent⟩ := marker_last ended (count ▸ counted)
      exact ⟨body ++ [last], [], observed_marked holds silent states⟩
  · intro r finished holds
    have marked := marked_of_finished opened empty holds finished
    rw [marked] at log
    obtain ⟨ended, count⟩ := log
    obtain ⟨body, last, whole, states, silent⟩ := marker_last ended (count ▸ counted)
    refine ⟨marked, body, last, ?_, states, fun l member => (silent l member).silent⟩
    rw [whole.bytes_eq, List.append_nil, TailReport.lines_encodeLines whole.single]

theorem rehearsal_log_observed :
    let alarms : Nat → Bool := fun n => n == 6
    (({} : Scene).journal.isOpen = true ∧ ({} : Scene).bytes = [] ∧
      ((rehearsal.alarmedRun rehearsalWorld alarms 10 {}).scene.callsSince {}).length ≤
        Numeral.maxWord) ∧
    (∃ whole part, LogObserved (rehearsal.alarmedRun rehearsalWorld alarms 10 {}).scene.bytes
      whole part (rehearsal.markedUnder? rehearsalWorld alarms {} 10)) ∧
    ∃ r, (rehearsal.alarmedRun rehearsalWorld alarms 10 {}).phase = .finished r ∧
      r.outcome = .interrupted 1 ∧
      EndsWithMarker (rehearsal.alarmedRun rehearsalWorld alarms 10 {}).scene.bytes r.outcome := by
  intro alarms
  have counted : ((rehearsal.alarmedRun rehearsalWorld alarms 10 {}).scene.callsSince {}).length ≤
      Numeral.maxWord := by decide +kernel
  have holds : rehearsal.LogHoldsUnder rehearsalWorld alarms {} :=
    logHoldsUnder_of_sound ⟨fun _ _ _ => rfl, fun _ _ _ => rfl⟩ ⟨rfl, fun _ => rfl, rfl⟩ alarms
  obtain ⟨observed, ends⟩ := @log_observed rehearsal rehearsalWorld alarms {} rfl rfl 10 counted
  refine ⟨⟨rfl, rfl, counted⟩, observed, ?_⟩
  have ended : (rehearsal.alarmedRun rehearsalWorld alarms 10 {}).Over := by decide +kernel
  have interrupted : rehearsal.markedUnder? rehearsalWorld alarms {} 10 =
      some (.interrupted 1) := by decide +kernel
  rcases ended with ⟨r, finished⟩ | ⟨f, failed⟩
  · obtain ⟨marked, last⟩ := ends r finished holds
    exact ⟨r, finished, Option.some.inj (marked.symm.trans interrupted), last⟩
  · exact absurd failed ((holds 10).1 f)

end BookingRetry.Run
