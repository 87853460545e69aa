import BookingRetry.Proofs.Run.Notes
import BookingRetry.Proofs.Run.Observed
import BookingRetry.Proofs.Span

/-!
The log of a run as a rendering of its report. Records are written at many stages, one of them long
before the attempt that it announces is certain; still, behind the header, the log has for each
attempt its own few records, then what leads to the end, and the marker.
-/
namespace BookingRetry.Run

namespace Scene

def headerLines (plan : Plan) (w : World) (before : Scene) : List Text :=
  (plan.header.lines (w.stamp before.stamps)).map Text.folded

def records (w : World) (before : Scene) (notes : List Note) : List Log.Record :=
  notes.mapIdx fun k n => ⟨w.stamp (before.stamps + 1 + k), n.level, Text.folded n.message⟩

def logLines (plan : Plan) (w : World) (before : Scene) (notes : List Note) : List Text :=
  before.headerLines plan w ++ (before.records w notes).map Log.Record.written

/-- The log has the header and these notes, and nothing else since the scene before. -/
structure LogHas (plan : Plan) (w : World) (before s : Scene) (notes : List Note) : Prop where
  opened : s.journal.isOpen = true
  stamps_eq : s.stamps = before.stamps + 1 + notes.length
  bytes_eq : s.bytes = before.bytes ++ Log.encodeLines (before.logLines plan w notes)

structure LogKept (s s' : Scene) : Prop where
  opened_eq : s'.journal.isOpen = s.journal.isOpen
  stamps_eq : s'.stamps = s.stamps
  bytes_eq : s'.bytes = s.bytes

end Scene

/-- The rounds tell of the attempts, and of what the vendor answered in each of them. -/
structure Rounds (plan : Plan) (w : World) (before : Scene) (rounds : List Round)
    (attempts : List Attempt) : Prop where
  attempts_eq : rounds.map Round.attempt = attempts
  answered : ∀ i r, rounds[i]? = some r → ∃ c, plan.turn? i = some c ∧
    r.verdict = plan.markers.verdict (Plan.answerAt w before i c r.attempt.startedAt)
  tallied : ∀ r ∈ rounds, ∃ k, r.talliedAt = r.attempt.finishedAt.add (w.drift k)

def Stage.rests : Stage → Bool
  | .waiting _ | .woken => true
  | _ => false

/-- What has been noted at a stage, if the clock shows `next` at its next reading. -/
def Stage.Noted (plan : Plan) (entered next : Span) (rounds : List Round) (p : Progress)
    (notes : List Note) : Stage → Prop
  | .starting => notes = plan.notes entered rounds ++ plan.wrapNotes p.count
  | .calling _ => notes = plan.notes entered rounds ++ plan.wrapNotes p.count ++
      [startNote (p.count + 1) p.rotation.current.label p.rotation.index plan.candidates.length]
  | .tallying => ∃ earlier r, rounds = earlier ++ [r] ∧ r.talliedAt = next ∧
      (∃ kind message, r.verdict = .retryable kind message) ∧
      notes = plan.notes entered earlier ++ plan.callNotes earlier.length r
  | _ => notes = plan.notes entered rounds

def Plan.AllWritten (plan : Plan) (w : World) (before : Scene) : Prop :=
  ∀ n, match (plan.run w n before).phase with
    | .failed _ => False
    | .closing o _ _ _ => (writeFinal w o (plan.run w n before).scene).1 = .ok ()
    | _ => True

structure Logged (plan : Plan) (w : World) (before s : Scene) (stage : Stage) (p : Progress) :
    Prop where
  startedAt_eq : p.startedAt = (before.read w).now
  deadline_eq : p.deadline = if plan.settings.retry then
    some ((before.read w).now.add plan.settings.timeout) else none
  first : p.count = 0 → p.pacing.last = none
  rested : stage.rests = true → 0 < p.count
  log : ∃ rounds notes, Rounds plan w before rounds p.attempts ∧
    stage.Noted plan (before.read w).now (s.read w).now rounds p notes ∧
    before.LogHas plan w s notes

/-- The log is made of the rounds of a run and of the time at which its end was certain. -/
structure Rendering (plan : Plan) (w : World) (before after : Scene) (r : RunReport)
    (rounds : List Round) (closedAt : Span) : Prop where
  startedAt_eq : r.startedAt = (before.read w).now
  told : Rounds plan w before rounds r.attempts
  closed : ∃ k, r.finishedAt = closedAt.add (w.drift k)
  bytes_eq : after.bytes = before.bytes ++ Log.encodeLines
    (before.logLines plan w (plan.allNotes r.startedAt rounds r.outcome closedAt))

def Rendered (plan : Plan) (w : World) (before : Scene) (st : State) : Prop :=
  match st.phase with
  | .going stage p => Logged plan w before st.scene stage p
  | .closing o attempts _ startedAt => startedAt = (before.read w).now ∧
      ∃ rounds, Rounds plan w before rounds attempts ∧
        before.LogHas plan w st.scene (plan.notes (before.read w).now rounds ++
          plan.promptNotes (before.read w).now o st.scene.now)
  | .finished r => plan.AllWritten w before →
      ∃ rounds closedAt, Rendering plan w before st.scene r rounds closedAt
  | .failed _ => True

variable {plan : Plan} {w : World} {before s s' : Scene} {stage : Stage} {p : Progress}
variable {notes : List Note} {entered : Span}

/-! ### Notes -/

theorem logLines_concat (n : Note) :
    before.logLines plan w (notes ++ [n]) = before.logLines plan w notes ++
      [Log.Record.written
        ⟨w.stamp (before.stamps + 1 + notes.length), n.level, Text.folded n.message⟩] := by
  unfold Scene.logLines Scene.records
  rw [List.mapIdx_concat, List.map_append, List.append_assoc]
  rfl

theorem Scene.LogHas.kept (h : before.LogHas plan w s notes) (same : s.LogKept s') :
    before.LogHas plan w s' notes where
  opened := same.opened_eq.trans h.opened
  stamps_eq := same.stamps_eq.trans h.stamps_eq
  bytes_eq := same.bytes_eq.trans h.bytes_eq

theorem read_kept : s.LogKept (s.read w) := ⟨rfl, rfl, rfl⟩

theorem heard_kept (called : Candidate × Nat) (reply : Reply) :
    s.LogKept (s.heard w called reply) := by
  unfold Scene.heard Scene.after
  cases reply.breaksLog <;> exact ⟨rfl, rfl, rfl⟩

theorem rested_kept (d : Span) (nap : Nap) : s.LogKept (s.rested d nap) := by
  unfold Scene.rested Scene.after
  cases nap.breaksLog <;> exact ⟨rfl, rfl, rfl⟩

theorem record_has {level : Log.Level} {message : Text} (h : before.LogHas plan w s notes)
    (written : (s.record w level message).1 = .ok ()) :
    before.LogHas plan w (s.record w level message).2 (notes ++ [⟨level, message⟩]) := by
  have wrote := Log.Journal.write_ok h.opened written
  constructor
  · exact wrote.1
  · show s.stamps + 1 = _
    rw [h.stamps_eq, List.length_append]
    rfl
  · have bytes : (s.record w level message).2.bytes = s.bytes ++ _ := wrote.2
    rw [bytes, h.bytes_eq, logLines_concat, Log.encodeLines_snoc, h.stamps_eq, List.append_assoc]

theorem writeFinal_has (h : before.LogHas plan w s notes) {o : Outcome}
    (told : (Plan.writeFinal w o s).1 = .ok ()) :
    before.LogHas plan w (Plan.writeFinal w o s).2 (notes ++ Plan.lastNotes o) := by
  unfold Plan.writeFinal at told ⊢
  cases o with
  | interrupted n =>
    have first := @record_has plan w before s notes .warn interruptedMessage h
    dsimp only at told ⊢
    cases noted : s.record w .warn interruptedMessage with
    | mk result after =>
      rw [noted] at first told
      cases result with
      | error f => contradiction
      | ok u =>
        have second := record_has (first rfl) told
        rwa [← markerNote_eq, List.append_assoc] at second
  | success | timeout | fatalInput | exhausted =>
    have last := record_has h told
    rwa [← markerNote_eq] at last

theorem writeFinal_ok_of_conclude {o : Outcome} (concluded : (Plan.conclude w o s).1 = .ok ()) :
    (Plan.writeFinal w o s).1 = .ok () := by
  cases told : (Plan.writeFinal w o s).1 with
  | ok u => rfl
  | error f =>
    rw [conclude_error told] at concluded
    contradiction

/-! ### Every move -/

theorem noting_renders {level : Log.Level} {message : Text} {next : Phase}
    (h : before.LogHas plan w s notes)
    (goes : ∀ s', s'.now = s.now → before.LogHas plan w s' (notes ++ [⟨level, message⟩]) →
      Rendered plan w before ⟨s', next⟩) :
    Rendered plan w before (noting w level message next s) := by
  rcases noting_cases w level message next s with ⟨written, eq⟩ | ⟨f, _, eq⟩ <;> rw [eq]
  · exact goes _ rfl (record_has h written)
  · trivial

theorem Stage.noted_iff {next : Span} {rounds : List Round} (moves : stage.movesOn = true) :
    stage.Noted plan entered next rounds p notes ↔ notes = plan.notes entered rounds := by
  cases stage with
  | starting | calling t | tallying => contradiction
  | budgeting | probing | settling | waiting d | woken => exact Iff.rfl

theorem Rounds.length_eq {rounds : List Round} {attempts : List Attempt}
    (h : Rounds plan w before rounds attempts) : rounds.length = attempts.length := by
  rw [← h.attempts_eq, List.length_map]

theorem Rounds.concat {rounds : List Round} {attempts : List Attempt} {r : Round} {c : Candidate}
    (h : Rounds plan w before rounds attempts) (turn : plan.turn? attempts.length = some c)
    (judged : r.verdict =
      plan.markers.verdict (Plan.answerAt w before attempts.length c r.attempt.startedAt))
    (tallied : ∃ k, r.talliedAt = r.attempt.finishedAt.add (w.drift k)) :
    Rounds plan w before (rounds ++ [r]) (attempts ++ [r.attempt]) where
  attempts_eq := by
    rw [List.map_append, h.attempts_eq]
    rfl
  answered := by
    intro i other found
    rcases Nat.lt_trichotomy i rounds.length with less | same | more
    · rw [List.getElem?_append_left less] at found
      exact h.answered i other found
    · rw [same, List.getElem?_concat_length, Option.some.injEq] at found
      rw [same, h.length_eq, ← found]
      exact ⟨c, turn, judged⟩
    · rw [List.getElem?_eq_none (by simp; omega)] at found
      contradiction
  tallied := by
    intro other member
    rcases List.mem_append.mp member with old | new
    · exact h.tallied other old
    · rwa [List.mem_singleton.mp new]

theorem Logged.settled (h : Logged plan w before s stage p) (moves : stage.movesOn = true) :
    ∃ rounds, Rounds plan w before rounds p.attempts ∧
      before.LogHas plan w s (plan.notes (before.read w).now rounds) := by
  obtain ⟨rounds, notes, told, noted, has⟩ := h.log
  rw [Stage.noted_iff moves] at noted
  rw [noted] at has
  exact ⟨rounds, told, has⟩

theorem Logged.onward (h : Logged plan w before s stage p) {next : Stage} (same : s.LogKept s')
    (moves : stage.movesOn = true) (moves' : next.movesOn = true)
    (rested : next.rests = true → 0 < p.count) : Logged plan w before s' next p := by
  obtain ⟨rounds, told, has⟩ := h.settled moves
  exact
    { h with
      rested := rested
      log := ⟨rounds, _, told, (Stage.noted_iff moves').mpr rfl, has.kept same⟩ }

theorem Logged.pausing {d : Span} (h : Logged plan w before s stage p) (same : s.LogKept s')
    (live : s'.cancelled = false) (moves : stage.movesOn = true) (some : 0 < p.count) :
    Rendered plan w before (pausing d p s') := by
  rcases pausing_cases d p live with ⟨_, eq⟩ | ⟨_, eq⟩ <;> rw [eq]
  · exact h.onward same moves rfl fun _ => some
  · exact h.onward same moves rfl fun _ => some

theorem Logged.interrupted (h : Logged plan w before s stage p) (same : s.LogKept s')
    (moves : stage.movesOn = true) : Rendered plan w before ⟨s', p.interrupted⟩ := by
  obtain ⟨rounds, told, has⟩ := h.settled moves
  refine ⟨h.startedAt_eq, rounds, told, ?_⟩
  have kept := has.kept same
  rwa [← List.append_nil (plan.notes _ rounds)] at kept

theorem Logged.ending {o : Outcome} {level : Log.Level} {message : Text}
    (h : Logged plan w before s stage p) (same : s.LogKept s') (moves : stage.movesOn = true)
    (prompt : plan.promptNotes (before.read w).now o s'.now = [⟨level, message⟩]) :
    Rendered plan w before (noting w level message (p.closing o) s') := by
  obtain ⟨rounds, told, has⟩ := h.settled moves
  refine noting_renders (has.kept same) ?_
  intro last now longer
  refine ⟨h.startedAt_eq, rounds, told, ?_⟩
  rwa [now, prompt]

theorem Underway.wrapNotes_eq (h : Underway plan w before s .probing p) (due : p.moveOn = true) :
    plan.wrapNotes p.count =
      if p.rotation.atLast then
        [⟨.info, wrapMessage p.rotation.next.size (p.rotation.next.wraps + 1)⟩]
      else [] := by
  have some := h.some_of_due due
  have last := Rotation.atLast_iff_dvd (h.stands_last rfl)
  have next := Rotation.next_standsAt (h.stands_last rfl)
  rw [Nat.sub_add_cancel some] at last next
  have wraps := next.wraps_eq
  rw [Rotation.next_items, h.items_eq] at wraps
  rw [h.items_eq] at last
  have size : p.rotation.next.size = plan.candidates.length := by
    unfold Rotation.size
    rw [Rotation.next_items, h.items_eq]
  rw [Plan.wrapNotes_eq, size, wraps]
  simp only [some, last, true_and]

theorem Logged.starting (h : Logged plan w before s .probing p) {rounds : List Round}
    (told : Rounds plan w before rounds p.attempts)
    (has : before.LogHas plan w s'
      (plan.notes (before.read w).now rounds ++ plan.wrapNotes p.count)) :
    Logged plan w before s' .starting p :=
  { h with
    rested := nofun
    log := ⟨rounds, _, told, rfl, has⟩ }

theorem Logged.moved (h : Logged plan w before s .starting p) :
    Logged plan w before s .starting p.moved :=
  { h with }

theorem Logged.unwrapped (h : Logged plan w before s .probing p) (same : s.LogKept s')
    (inside : plan.wrapNotes p.count = []) : Logged plan w before s' .starting p := by
  obtain ⟨rounds, told, has⟩ := h.settled rfl
  refine h.starting told ?_
  rw [inside, List.append_nil]
  exact has.kept same

theorem Logged.calling (h : Logged plan w before s .starting p) {t : Span} {rounds : List Round}
    (told : Rounds plan w before rounds p.attempts)
    (has : before.LogHas plan w s' (plan.notes (before.read w).now rounds ++
      plan.wrapNotes p.count ++
      [startNote (p.count + 1) p.rotation.current.label p.rotation.index
        plan.candidates.length])) :
    Logged plan w before s' (.calling t) p :=
  { h with
    rested := nofun
    log := ⟨rounds, _, told, rfl, has⟩ }

theorem Logged.announced (h : Logged plan w before s .starting p)
    (account : Underway plan w before s .starting p) :
    Rendered plan w before (Plan.announce w p s) := by
  obtain ⟨rounds, notes, told, noted, has⟩ := h.log
  rcases announce_cases w p s with ⟨written, eq⟩ | ⟨f, _, eq⟩ <;> rw [eq]
  · have size : p.rotation.size = plan.candidates.length := congrArg List.length account.items_eq
    refine h.calling told ?_
    rw [startNote_eq, ← size, ← noted]
    exact (record_has has written).kept read_kept
  · trivial

theorem Logged.following {stage : Stage} (h : Logged plan w before s stage p) {a : Attempt}
    {verdict : Verdict} {rounds : List Round}
    (told : Rounds plan w before (rounds ++ [⟨a, verdict, (s'.read w).now⟩]) (p.attempts ++ [a]))
    (has : before.LogHas plan w s' (plan.notes (before.read w).now rounds ++
      plan.callNotes rounds.length ⟨a, verdict, (s'.read w).now⟩)) :
    Rendered plan w before ⟨s', (p.kept a).following (p.count + 1) verdict⟩ := by
  cases verdict with
  | success detail =>
    refine ⟨h.startedAt_eq, _, told, ?_⟩
    rw [Plan.notes_concat]
    simpa [Plan.summaryNotes, Plan.promptNotes, Plan.closingNotes] using has
  | fatal kind message =>
    refine ⟨h.startedAt_eq, _, told, ?_⟩
    rw [Plan.notes_concat]
    simpa [Plan.summaryNotes, Plan.promptNotes, Plan.closingNotes] using has
  | retryable kind message =>
    exact
      { startedAt_eq := h.startedAt_eq
        deadline_eq := h.deadline_eq
        first := fun none => by
          rw [Progress.failed_count, Progress.count_kept] at none
          exact absurd none (Nat.succ_ne_zero _)
        rested := fun rests => absurd rests Bool.false_ne_true
        log := ⟨_, _, told, ⟨rounds, _, rfl, rfl, ⟨kind, message, rfl⟩, rfl⟩, has⟩ }

theorem Logged.answered {startedAt : Span} {reply : Reply}
    (h : Logged plan w before s (.calling startedAt) p)
    (account : Underway plan w before s (.calling startedAt) p)
    (replied : reply = w.call s.calls.length s.now p.rotation.current) :
    let verdict := plan.markers.verdict reply.answer
    let heard := s.heard w (p.rotation.current, p.count + 1) reply
    Rendered plan w before
      (noting w (resultLevel verdict) (resultMessage (p.count + 1) p.rotation.current.label verdict)
        ((p.kept (p.attempt startedAt heard.now verdict)).following (p.count + 1) verdict)
        heard) := by
  intro verdict heard
  obtain ⟨rounds, notes, told, noted, has⟩ := h.log
  refine noting_renders (has.kept (heard_kept _ reply)) ?_
  intro s' now longer
  have judged : verdict =
      plan.markers.verdict (Plan.answerAt w before p.count p.rotation.current startedAt) := by
    rw [account.answer_eq, ← replied]
  have tallied : (s'.read w).now = heard.now.add (w.drift s'.readings) := by
    rw [← now]
    rfl
  have size : rounds.length = p.count := told.length_eq
  refine h.following (told.concat (account.turn rfl) judged ⟨_, tallied⟩) ?_
  rw [noted, List.append_assoc, List.append_assoc, ← resultNote_judged, ← size] at longer
  exact longer

theorem Rounds.summaryNotes_eq {earlier : List Round} {r : Round} {kind : FailureKind}
    {message : Text} (told : Rounds plan w before (earlier ++ [r]) p.attempts)
    (again : r.verdict = .retryable kind message) :
    plan.summaryNotes entered (earlier.map Round.attempt) r =
      if plan.Sums p.count then
        [summaryNote p.attempts (r.talliedAt.sub entered) (plan.remainingAt entered r.talliedAt)]
      else [] := by
  have attempts : earlier.map Round.attempt ++ [r.attempt] = p.attempts := by
    rw [← told.attempts_eq, List.map_append]
    rfl
  have count : (earlier.map Round.attempt).length + 1 = p.count := by
    unfold Progress.count
    rw [← attempts, List.length_append]
    rfl
  unfold Plan.summaryNotes
  rw [again]
  simp only [count, attempts]

theorem Logged.settling (h : Logged plan w before s .tallying p) {rounds : List Round}
    (told : Rounds plan w before rounds p.attempts)
    (has : before.LogHas plan w s' (plan.notes (before.read w).now rounds)) :
    Logged plan w before s' .settling p.due :=
  { h with
    rested := nofun
    log := ⟨rounds, _, told, rfl, has⟩ }

theorem Logged.untallied (h : Logged plan w before s .tallying p) (between : ¬ plan.Sums p.count) :
    Logged plan w before s .settling p.due := by
  obtain ⟨_, notes, told, ⟨earlier, r, rfl, _, ⟨kind, message, again⟩, rfl⟩, has⟩ := h.log
  refine h.settling told ?_
  rw [Plan.notes_concat, told.summaryNotes_eq again, if_neg between, List.append_nil]
  simpa using has

theorem Logged.remaining_eq (h : Logged plan w before s stage p) (now : Span) :
    plan.remainingAt (before.read w).now now = p.deadline.map fun d => d.sub now := by
  rw [h.deadline_eq]
  unfold Plan.remainingAt
  split <;> rfl

theorem Logged.tallied (h : Logged plan w before s .tallying p) (counted : FailuresCounted p)
    (sums : plan.Sums p.count) :
    Rendered plan w before
      (noting w .info
        (summaryMessage p.count p.failures ((s.read w).now.sub p.startedAt)
          (p.deadline.map fun d => d.sub (s.read w).now))
        (.going .settling p.due) (s.read w)) := by
  obtain ⟨_, notes, told, ⟨earlier, r, rfl, time, ⟨kind, message, again⟩, rfl⟩, has⟩ := h.log
  have made : p.attempts ≠ [] := by
    rw [← told.attempts_eq]
    simp
  refine noting_renders (has.kept read_kept) ?_
  intro s' _ longer
  refine h.settling told ?_
  rw [Plan.notes_concat, told.summaryNotes_eq again, if_pos sums, time, h.remaining_eq,
    ← h.startedAt_eq]
  rw [← summaryNote_eq counted made, ← h.startedAt_eq] at longer
  simpa using longer

theorem close_renders {o : Outcome} {attempts : List Attempt} {wraps : Nat} {startedAt : Span}
    (h : Rendered plan w before ⟨s, .closing o attempts wraps startedAt⟩)
    (written : plan.AllWritten w before → (Plan.writeFinal w o s).1 = .ok ()) :
    Rendered plan w before (Plan.close w o attempts wraps startedAt s) := by
  obtain ⟨started, rounds, told, has⟩ := h
  rcases close_cases w o attempts wraps startedAt s with ⟨_, eq⟩ | ⟨f, _, eq⟩ <;> rw [eq]
  · intro all
    have last := writeFinal_has has (written all)
    refine ⟨rounds, s.now, started, told, ?_, ?_⟩
    · refine ⟨(Plan.conclude w o s).2.readings, ?_⟩
      rw [Scene.read_now, conclude_now]
    · show (Plan.conclude w o s).2.bytes = _
      rw [conclude_bytes, last.bytes_eq, List.append_assoc, Plan.prompt_and_last,
        ← List.append_assoc, ← started]
      rfl
  · trivial

theorem rendered_start (somebody : plan.candidates ≠ []) (opened : before.journal.isOpen = true) :
    Rendered plan w before (plan.start w before) := by
  rcases start_cases plan w before with ⟨nobody, _⟩ | ⟨rotation, _, ⟨written, eq⟩ | ⟨f, _, eq⟩⟩
  · exact absurd nobody somebody
  · rw [eq]
    have wrote := Log.Journal.rawAll_ok opened written
    exact
      { startedAt_eq := rfl
        deadline_eq := rfl
        first := fun _ => rfl
        rested := nofun
        log := by
          refine ⟨[], [], ⟨rfl, nofun, nofun⟩, rfl, ⟨wrote.1, rfl, ?_⟩⟩
          exact wrote.2.trans (congrArg _ (by simp [Scene.logLines, Scene.records]; rfl)) }
  · rw [eq]
    trivial

theorem rendered_move {st st' : State} (move : Move plan w st st')
    (accounted : Accounted plan w before st) (tallied : Tallied st) (h : Rendered plan w before st)
    (written : ∀ o attempts wraps startedAt, st.phase = .closing o attempts wraps startedAt →
      plan.AllWritten w before → (Plan.writeFinal w o st.scene).1 = .ok ()) :
    Rendered plan w before st' := by
  cases move with
  | unlimited unbounded => exact h.onward ⟨rfl, rfl, rfl⟩ rfl rfl nofun
  | inBudget bounded early => exact h.onward read_kept rfl rfl nofun
  | spent bounded late => exact h.ending read_kept rfl rfl
  | interrupted cancelled watched =>
    rcases watched with rfl | rfl | rfl
    · exact h.interrupted ⟨rfl, rfl, rfl⟩ rfl
    · rw [accounted.live rfl] at cancelled
      contradiction
    · exact h.interrupted ⟨rfl, rfl, rfl⟩ rfl
  | cleared live free still =>
    refine h.unwrapped read_kept ?_
    rw [accounted.none_of_still still]
    rfl
  | movedOn live free due inside =>
    refine (h.unwrapped read_kept ?_).moved
    rw [accounted.wrapNotes_eq due, inside]
    rfl
  | @wrapped s p live free due last =>
    obtain ⟨rounds, told, has⟩ := h.settled rfl
    refine noting_renders (has.kept read_kept) ?_
    intro s' _ longer
    refine (h.starting told ?_).moved
    rwa [accounted.wrapNotes_eq due, last]
  | @held s p live busy =>
    have some : 0 < p.count := by
      rcases Nat.eq_zero_or_pos p.count with none | some
      · rw [Pacing.check_first (h.first none)] at busy
        contradiction
      · exact some
    exact h.pausing read_kept live rfl some
  | announced live => exact h.announced accounted
  | answered replied judged passed =>
    subst judged passed
    exact h.answered accounted replied
  | untallied between => exact h.untallied between
  | tallied sums => exact h.tallied (tallied _ _ rfl) sums
  | exhausted live unbounded last =>
    refine h.ending ⟨rfl, rfl, rfl⟩ rfl ?_
    have size := congrArg List.length accounted.items_eq
    show [Note.mk .error (passFinishedMessage plan.candidates.length)] = _
    rw [← size]
    rfl
  | passGoesOn live unbounded inside => exact h.onward ⟨rfl, rfl, rfl⟩ rfl rfl nofun
  | waits live bounded early => exact h.pausing read_kept live rfl (accounted.made rfl)
  | @late s p d stage bounded late checked =>
    have some : 0 < p.count := by
      rcases checked with ⟨rfl, _⟩ | rfl
      · exact accounted.made rfl
      · exact h.rested rfl
    have moves : stage.movesOn = true := by rcases checked with ⟨rfl, _⟩ | rfl <;> rfl
    refine h.ending read_kept moves ?_
    show plan.closingNotes _ (.timeout p.count) _ = _
    rw [Plan.closingNotes_timeout (Nat.ne_of_gt some), h.startedAt_eq]
  | roused napped cancels => exact h.interrupted (rested_kept _ _) rfl
  | slept napped whole => exact h.onward (rested_kept _ _) rfl rfl fun _ => h.rested rfl
  | wokenUnlimited unbounded => exact h.onward ⟨rfl, rfl, rfl⟩ rfl rfl nofun
  | wokenInTime bounded early => exact h.onward read_kept rfl rfl nofun
  | closed => exact close_renders h (written _ _ _ _ rfl)
  | rests => exact h
  | stuck => exact h

theorem run_rendered (somebody : plan.candidates ≠ []) (opened : before.journal.isOpen = true)
    (n : Nat) : Accounted plan w before (plan.run w n before) ∧
      Rendered plan w before (plan.run w n before) := by
  induction n with
  | zero => exact ⟨accounted_start plan w before, rendered_start somebody opened⟩
  | succ n ih =>
    obtain ⟨accounted, rendered⟩ := ih
    have move := step_moves plan w (plan.run w n before)
    rw [← Plan.run_succ] at move
    refine ⟨accounted_move move accounted,
      rendered_move move accounted (run_tallied n) rendered ?_⟩
    intro o attempts wraps startedAt closing all
    have written := all n
    rwa [closing] at written

/-! ### The log of a finished run -/

theorem allWritten_of_logHolds (holds : plan.LogHolds w before) : plan.AllWritten w before := by
  intro n
  have sound := holds n
  split
  · rename_i f failed
    rwa [failed] at sound
  · rename_i o attempts wraps startedAt closing
    exact writeFinal_ok_of_conclude (holds.closing closing)
  · trivial

/-- The log is the rendering of a report: what its records say comes from the attempts, from the
answers to their calls and from the outcome, and it is read back record by record. -/
structure LogRenders (plan : Plan) (w : World) (before after : Scene) (r : RunReport)
    (rounds : List Round) (closedAt : Span) : Prop where
  attempts_eq : rounds.map Round.attempt = r.attempts
  answered : ∀ i round, rounds[i]? = some round → ∃ c,
    (after.callsSince before)[i]? = some (c, i + 1) ∧
    Entry plan w before i (c, i + 1) round.attempt ∧
    round.verdict = plan.markers.verdict (Plan.answerAt w before i c round.attempt.startedAt)
  tallied : ∀ round ∈ rounds, ∃ k, round.talliedAt = round.attempt.finishedAt.add (w.drift k)
  closed : ∃ k, r.finishedAt = closedAt.add (w.drift k)
  bytes_eq : after.bytes = before.bytes ++ Log.encodeLines
    (before.logLines plan w (plan.allNotes r.startedAt rounds r.outcome closedAt))
  read_back : before.bytes = [] →
    (Log.readLines (Utf8.decodeLossy after.bytes)).drop 10 =
      (before.records w (plan.allNotes r.startedAt rounds r.outcome closedAt)).map Log.Line.record

theorem logLines_single {l : Text} (member : l ∈ before.logLines plan w notes) : Text.Single l := by
  unfold Scene.logLines Scene.headerLines Scene.records at member
  rcases List.mem_append.mp member with header | record
  · obtain ⟨t, _, rfl⟩ := List.mem_map.mp header
    exact Text.folded_single t
  · obtain ⟨r, among, rfl⟩ := List.mem_map.mp record
    obtain ⟨k, bound, rfl⟩ := List.mem_mapIdx.mp among
    exact Log.written_single (Text.folded_single _)

theorem readLines_logLines :
    (Log.readLines (Utf8.decodeLossy (Log.encodeLines (before.logLines plan w notes)))).drop 10 =
      (before.records w notes).map Log.Line.record := by
  have header : ((before.headerLines plan w).map Log.Line.ofText).length = 10 := by
    simp [Scene.headerLines, Log.Header.lines]
  have read : ∀ r : Log.Record, Log.Line.ofText r.written = .record r := by
    intro r
    unfold Log.Line.ofText
    rw [Log.record?_written]
  unfold Log.readLines
  rw [TailReport.lines_encodeLines fun l member => logLines_single member]
  unfold Scene.logLines
  rw [List.map_append, List.drop_left' header, List.map_map]
  exact List.map_congr_left fun r _ => read r

/-- The log of a run over some candidates that is finished, all its records written, has behind the
header the records of its attempts, those of its outcome and the marker, in order and no others. -/
theorem finished_log_renders {limit : Nat} {r : RunReport} (somebody : plan.candidates ≠ [])
    (opened : before.journal.isOpen = true) (all : plan.AllWritten w before)
    (finished : (plan.run w limit before).phase = .finished r) :
    ∃ rounds closedAt,
      LogRenders plan w before (plan.run w limit before).scene r rounds closedAt := by
  have settled := settled_of_finished finished
  have rendered := (@run_rendered plan w before somebody opened limit).2
  unfold Rendered at rendered
  rw [finished] at rendered
  obtain ⟨rounds, closedAt, started, told, closed, bytes⟩ := rendered all
  refine ⟨rounds, closedAt, told.attempts_eq, ?_, told.tallied, closed, bytes, ?_⟩
  · intro i round found
    have attempt : r.attempts[i]? = some round.attempt := by
      rw [← told.attempts_eq, List.getElem?_map, found]
      rfl
    obtain ⟨c, called, entry⟩ := settled.account.entry_of attempt
    obtain ⟨c', turn, judged⟩ := told.answered i round found
    have same : c' = c := Option.some.inj (turn.symm.trans entry.turn)
    exact ⟨c, called, entry, same ▸ judged⟩
  · intro empty
    rw [bytes, empty, List.nil_append]
    exact readLines_logLines

theorem rehearsal_log_renders :
    (rehearsal.candidates ≠ [] ∧ ({} : Scene).journal.isOpen = true ∧
      rehearsal.AllWritten rehearsalWorld {}) ∧
    ∃ r, (rehearsal.run rehearsalWorld 40 {}).phase = .finished r ∧
      ∃ rounds closedAt, LogRenders rehearsal rehearsalWorld {}
        (rehearsal.run rehearsalWorld 40 {}).scene r rounds closedAt := by
  have all : rehearsal.AllWritten rehearsalWorld {} :=
    allWritten_of_logHolds
      (logHolds_of_sound ⟨fun _ _ _ => rfl, fun _ _ _ => rfl⟩ ⟨rfl, fun _ => rfl, rfl⟩)
  have somebody : rehearsal.candidates ≠ [] := nofun
  exact ⟨⟨somebody, rfl, all⟩, _, rfl, finished_log_renders somebody rfl all rfl⟩

end BookingRetry.Run
