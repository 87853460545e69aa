import BookingRetry.Proofs.Run.Cancellation
import BookingRetry.Proofs.Run.Rendering

/-!
What becomes of a run whose log fails. Any write may be the one that fails, and so may the end of
the log. A run fails with the first fault and makes no more calls, unless it had been interrupted
before; and each call that it makes stands announced in the file by then.
-/
namespace BookingRetry

def Log.Record.announces (r : Log.Record) : Bool :=
  r.level = .info && (lit "[attempt").isPrefixOf r.message

theorem Outcome.level_not_info (o : Outcome) : o.level ≠ .info := by
  cases o <;> simp [level]

namespace Run

/-- A record announces the attempt with a given number. -/
def Announces (r : Log.Record) (number : Nat) (c : Candidate) : Prop :=
  r.level = .info ∧
    ∃ index total, r.message = Text.folded (startNote number c.label index total).message

/-- One record after the other announces these calls, in their order and with their numbers, and no
other record announces any. -/
structure AllAnnounced (records : List Log.Record) (calls : List (Candidate × Nat)) : Prop where
  each : List.Forall₂ (fun r call => Announces r call.2 call.1)
    (records.filter Log.Record.announces) calls
  numbered : calls.map Prod.snd = List.range' 1 calls.length

namespace Scene

def preface (plan : Plan) (w : World) (before : Scene) : List Text :=
  if plan.candidates.isEmpty then [] else before.headerLines plan w

def LogFull (plan : Plan) (w : World) (before s : Scene) (records : List Log.Record) : Prop :=
  s.bytes = before.bytes ++
    Log.encodeLines (before.preface plan w ++ records.map Log.Record.written)

/-- Since a scene the log has got these records behind its header, or a part of the header only. -/
def LogGot (plan : Plan) (w : World) (before s : Scene) (records : List Log.Record) : Prop :=
  before.LogFull plan w s records ∨
    records = [] ∧ ∃ header, header <+: before.preface plan w ∧
      s.bytes = before.bytes ++ Log.encodeLines header

/-- The log has these records, which announce the calls so far and those that are pending. -/
structure Recorded (plan : Plan) (w : World) (before s : Scene) (records : List Log.Record)
    (calls : Nat) (pending : List (Candidate × Nat)) : Prop where
  full : before.LogFull plan w s records
  called : s.calls.length = before.calls.length + calls
  announced : AllAnnounced records (s.callsSince before ++ pending)

end Scene

/-- The calls that are announced and not made yet. -/
def Stage.pending (p : Progress) : Stage → List (Candidate × Nat)
  | .calling _ => [(p.rotation.current, p.count + 1)]
  | _ => []

def Phase.pending : Phase → List (Candidate × Nat)
  | .going stage p => stage.pending p
  | _ => []

structure Writing (plan : Plan) (w : World) (before s : Scene) (stage : Stage) (p : Progress) :
    Prop where
  intact : before.journal.Intact s.journal
  log : ∃ records, before.Recorded plan w s records p.count (stage.pending p) ∧
    ∀ t, stage = .calling t →
      ∃ r ∈ records.getLast?, Announces r (p.count + 1) p.rotation.current

/-- Nothing has failed, and the log is closed behind the marker. -/
structure Concluded (before s : Scene) (o : Outcome) (records : List Log.Record) : Prop where
  faultless : ∀ f, ¬ before.journal.FailedSince s.journal f
  closed : s.journal.isOpen = false
  marked : ∃ r ∈ records.getLast?, Note.mk r.level r.message = markerNote o

def Marks (plan : Plan) (w : World) (before : Scene) (o : Outcome) (calls : Nat)
    (told : Except FileFault Unit × Scene) : Prop :=
  ∃ records, before.Recorded plan w told.2 records calls [] ∧
    ((told.1 = .ok () ∧ before.journal.Intact told.2.journal ∧
        ∃ r ∈ records.getLast?, Note.mk r.level r.message = markerNote o) ∨
      ∃ f, told.1 = .error f ∧ before.journal.FailedSince told.2.journal f)

def Heeding (plan : Plan) (w : World) (before : Scene) (st : State) : Prop :=
  match st.phase with
  | .going stage p => Writing plan w before st.scene stage p
  | .closing o attempts _ _ => before.journal.Intact st.scene.journal ∧
      (∃ records, before.Recorded plan w st.scene records attempts.length []) ∧
      ∀ k, o = .interrupted k → k = attempts.length
  | .finished r => ∃ records, before.Recorded plan w st.scene records r.attempts.length [] ∧
      (∀ k, r.outcome = .interrupted k → k = r.attempts.length) ∧
      ((∃ k, r.outcome = .interrupted k) ∨ Concluded before st.scene r.outcome records)
  | .failed f => before.journal.FailedSince st.scene.journal f ∧
      ∃ records, before.LogGot plan w st.scene records ∧
        AllAnnounced records (st.scene.callsSince before)

variable {plan : Plan} {w : World} {before s s' : Scene} {stage : Stage} {p : Progress}
variable {records : List Log.Record} {calls : Nat} {pending : List (Candidate × Nat)}

/-! ### Records -/

theorem quiet_level {stamp : Stamp} {level : Log.Level} {message : Text} (other : level ≠ .info) :
    Log.Record.announces ⟨stamp, level, message⟩ = false := by
  simp [Log.Record.announces, other]

theorem isPrefixOf_folded {front c : Char} (visible : Text.isBlankChar c = false)
    (differs : front ≠ c) (more rest : Text) :
    (front :: more).isPrefixOf (Text.folded (c :: rest)) = false := by
  obtain ⟨tail, eq⟩ := List.head?_eq_some_iff.mp (Text.folded_starts visible rest)
  simp [eq, List.isPrefixOf, differs]

theorem isPrefixOf_folded_tagged {message tail : Text} (tagged : message = lit "[attempt" ++ tail) :
    (lit "[attempt").isPrefixOf (Text.folded message) = true := by
  have firm : Text.Firm (lit "[attempt") :=
    ⟨by decide, ⟨'[', lit "attempt", rfl, rfl⟩, ⟨lit "[attemp", 't', rfl, rfl⟩⟩
  obtain ⟨rest, eq⟩ := firm.folded tail
  rw [tagged, eq]
  exact List.isPrefixOf_iff_prefix.mpr ⟨rest, rfl⟩

theorem quiet_start {stamp : Stamp} {level : Log.Level} {c : Char}
    (visible : Text.isBlankChar c = false) (other : c ≠ '[') (rest : Text) :
    Log.Record.announces ⟨stamp, level, Text.folded (c :: rest)⟩ = false := by
  have unopened := isPrefixOf_folded visible other.symm (lit "attempt") rest
  have opens : lit "[attempt" = '[' :: lit "attempt" := rfl
  simp [Log.Record.announces, opens, unopened]

theorem Announces.announces {r : Log.Record} {number : Nat} {c : Candidate}
    (h : Announces r number c) : r.announces = true := by
  obtain ⟨level, index, total, message⟩ := h
  let note := (startNote number c.label index total).message
  have tagged : note = lit "[attempt" ++ note.drop 8 := rfl
  have opens := isPrefixOf_folded_tagged tagged
  rw [← message] at opens
  simp [Log.Record.announces, level, opens]

theorem start_announces (stamp : Stamp) (number : Nat) (c : Candidate) (index total : Nat) :
    Announces ⟨stamp, .info, Text.folded (startMessage number c.label (index + 1) total)⟩
      number c := by
  refine ⟨rfl, index, total, ?_⟩
  rw [startNote_eq]

theorem AllAnnounced.quiet {r : Log.Record} {made : List (Candidate × Nat)}
    (h : AllAnnounced records made) (quiet : r.announces = false) :
    AllAnnounced (records ++ [r]) made where
  each := by simpa [List.filter_append, quiet] using h.each
  numbered := h.numbered

theorem AllAnnounced.concat {r : Log.Record} {made : List (Candidate × Nat)} {c : Candidate}
    (h : AllAnnounced records made) (told : Announces r (made.length + 1) c) :
    AllAnnounced (records ++ [r]) (made ++ [(c, made.length + 1)]) where
  each := by
    have last : List.Forall₂ (fun r call => Announces r call.2 call.1) [r]
        [(c, made.length + 1)] := .cons told .nil
    simpa [List.filter_append, told.announces] using List.rel_append h.each last
  numbered := by
    rw [List.map_append, h.numbered, List.length_append, List.length_singleton,
      List.range'_1_concat]
    simp [Nat.add_comm]

theorem Scene.LogFull.same (h : before.LogFull plan w s records) (bytes : s'.bytes = s.bytes) :
    before.LogFull plan w s' records := by
  unfold LogFull
  rw [bytes]
  exact h

theorem Scene.LogFull.concat (h : before.LogFull plan w s records) {r : Log.Record}
    (bytes : s'.bytes = s.bytes ++ Log.encodeLine r.written) :
    before.LogFull plan w s' (records ++ [r]) := by
  unfold LogFull at h ⊢
  rw [bytes, h, List.append_assoc, ← Log.encodeLines_snoc, List.map_append, List.append_assoc]
  rfl

theorem Scene.Recorded.callsSince (h : before.Recorded plan w s records calls pending) :
    (s.callsSince before).length = calls := by
  rw [Scene.callsSince, List.length_drop, h.called]
  omega

theorem callsSince_concat (h : before.Recorded plan w s records calls pending)
    {call : Candidate × Nat} (called : s'.calls = s.calls ++ [call]) :
    s'.callsSince before = s.callsSince before ++ [call] := by
  have front : before.calls.length ≤ s.calls.length := h.called ▸ Nat.le_add_right _ _
  rw [Scene.callsSince, called, List.drop_append_of_le_length front]
  rfl

theorem bytes_of_journal (journal : s'.journal = s.journal) : s'.bytes = s.bytes :=
  congrArg (fun j => j.sink.bytes) journal

theorem Scene.Recorded.same (h : before.Recorded plan w s records calls pending)
    (bytes : s'.bytes = s.bytes) (made : s'.calls = s.calls) :
    before.Recorded plan w s' records calls pending where
  full := h.full.same bytes
  called := made ▸ h.called
  announced := by
    unfold Scene.callsSince
    rw [made]
    exact h.announced

theorem Scene.Recorded.quiet {r : Log.Record}
    (h : before.Recorded plan w s records calls pending)
    (full : before.LogFull plan w s' (records ++ [r])) (made : s'.calls = s.calls)
    (quiet : r.announces = false) : before.Recorded plan w s' (records ++ [r]) calls pending where
  full := full
  called := made ▸ h.called
  announced := by
    unfold Scene.callsSince
    rw [made]
    exact h.announced.quiet quiet

theorem Scene.Recorded.pend {r : Log.Record} {c : Candidate}
    (h : before.Recorded plan w s records calls [])
    (full : before.LogFull plan w s' (records ++ [r])) (made : s'.calls = s.calls)
    (told : Announces r (calls + 1) c) :
    before.Recorded plan w s' (records ++ [r]) calls [(c, calls + 1)] where
  full := full
  called := made ▸ h.called
  announced := by
    have announced := h.announced
    rw [List.append_nil] at announced
    have same : s'.callsSince before = s.callsSince before := by
      rw [Scene.callsSince, Scene.callsSince, made]
    rw [same, ← h.callsSince]
    rw [← h.callsSince] at told
    exact announced.concat told

theorem Scene.Recorded.call {call : Candidate × Nat}
    (h : before.Recorded plan w s records calls [call]) (bytes : s'.bytes = s.bytes)
    (called : s'.calls = s.calls ++ [call]) :
    before.Recorded plan w s' records (calls + 1) [] where
  full := h.full.same bytes
  called := by
    rw [called, List.length_append, h.called]
    rfl
  announced := by
    rw [List.append_nil, callsSince_concat h called]
    exact h.announced

theorem record_intact (intact : before.journal.Intact s.journal)
    (h : before.Recorded plan w s records calls pending) (level : Log.Level) (message : Text) :
    let r : Log.Record := ⟨w.stamp s.stamps, level, Text.folded message⟩
    let written := s.record w level message
    (written.1 = .ok () ∧ before.journal.Intact written.2.journal ∧
      before.LogFull plan w written.2 (records ++ [r])) ∨
    ∃ f, written.1 = .error f ∧ before.journal.FailedSince written.2.journal f ∧
      before.Recorded plan w written.2 records calls pending := by
  intro r written
  rcases intact.write r.written with ⟨ok, still, bytes⟩ | ⟨f, error, failed, bytes⟩
  · exact Or.inl ⟨ok, still, h.full.concat bytes⟩
  · exact Or.inr ⟨f, error, failed, h.same bytes rfl⟩

theorem heeding_failed {f : FileFault} (failed : before.journal.FailedSince s.journal f)
    (h : before.Recorded plan w s records calls []) : Heeding plan w before ⟨s, .failed f⟩ := by
  have announced := h.announced
  rw [List.append_nil] at announced
  exact ⟨failed, records, Or.inl h.full, announced⟩

theorem noting_heeds {level : Log.Level} {message : Text} {next : Phase}
    (intact : before.journal.Intact s.journal) (h : before.Recorded plan w s records calls [])
    (quiet : ∀ stamp, Log.Record.announces ⟨stamp, level, Text.folded message⟩ = false)
    (goes : ∀ s' records', before.journal.Intact s'.journal →
      before.Recorded plan w s' records' calls [] → Heeding plan w before ⟨s', next⟩) :
    Heeding plan w before (noting w level message next s) := by
  rcases record_intact intact h level message with ⟨ok, still, longer⟩ | ⟨f, error, failed, same⟩
  · rw [noting_of_ok ok]
    exact goes _ _ still (h.quiet longer rfl (quiet _))
  · rw [noting_of_error error]
    exact heeding_failed failed same

/-! ### Every move -/

theorem Writing.settled (h : Writing plan w before s stage p) (still : stage.pending p = []) :
    ∃ records, before.Recorded plan w s records p.count [] := by
  obtain ⟨records, log, _⟩ := h.log
  rw [still] at log
  exact ⟨records, log⟩

theorem writing_of (intact : before.journal.Intact s.journal)
    (h : before.Recorded plan w s records p.count []) (still : stage.pending p = []) :
    Writing plan w before s stage p := by
  refine ⟨intact, records, ?_, ?_⟩
  · rwa [still]
  · rintro t rfl
    contradiction

theorem Writing.onward {next : Stage} {p' : Progress} (h : Writing plan w before s stage p)
    (journal : s'.journal = s.journal) (made : s'.calls = s.calls) (count : p'.count = p.count)
    (still : stage.pending p = []) (still' : next.pending p' = []) :
    Writing plan w before s' next p' := by
  obtain ⟨records, log⟩ := h.settled still
  rw [← count] at log
  exact writing_of (journal ▸ h.intact) (log.same (bytes_of_journal journal) made) still'

theorem Writing.interrupted (h : Writing plan w before s stage p)
    (journal : s'.journal = s.journal) (made : s'.calls = s.calls) (still : stage.pending p = []) :
    Heeding plan w before ⟨s', p.interrupted⟩ := by
  obtain ⟨records, log⟩ := h.settled still
  refine ⟨journal ▸ h.intact, ⟨records, log.same (bytes_of_journal journal) made⟩, ?_⟩
  intro k same
  cases same
  rfl

theorem Writing.pausing {d : Span} (h : Writing plan w before s stage p)
    (journal : s'.journal = s.journal) (made : s'.calls = s.calls) (still : stage.pending p = []) :
    Heeding plan w before (pausing d p s') := by
  unfold Run.pausing
  split
  · exact h.interrupted journal made still
  · split
    · exact h.onward journal made rfl still rfl
    · exact h.onward journal made rfl still rfl

theorem Writing.ending {o : Outcome} {message : Text} (h : Writing plan w before s stage p)
    (journal : s'.journal = s.journal) (made : s'.calls = s.calls) (still : stage.pending p = [])
    (other : ∀ k, o ≠ .interrupted k) :
    Heeding plan w before (noting w .error message (p.closing o) s') := by
  obtain ⟨records, log⟩ := h.settled still
  refine noting_heeds (journal ▸ h.intact) (log.same (bytes_of_journal journal) made)
    (fun _ => quiet_level nofun) ?_
  intro last records' intact log
  exact ⟨intact, ⟨records', log⟩, fun k same => absurd same (other k)⟩

theorem Writing.announced (h : Writing plan w before s .starting p) :
    Heeding plan w before (Plan.announce w p s) := by
  obtain ⟨records, log⟩ := h.settled rfl
  rcases record_intact h.intact log .info (startMessage (p.count + 1) p.rotation.current.label
      (p.rotation.index + 1) p.rotation.size) with ⟨ok, still, longer⟩ | ⟨f, error, failed, same⟩
  · have told := start_announces (w.stamp s.stamps) (p.count + 1) p.rotation.current
      p.rotation.index p.rotation.size
    rw [announce_of_ok ok]
    exact ⟨still, _, (log.pend longer rfl told).same rfl rfl, fun _ _ =>
      ⟨_, List.getLast?_concat, told⟩⟩
  · rw [announce_of_error error]
    exact heeding_failed failed same

theorem heard_journal (keeps : w.KeepsLog) {reply : Reply} {c : Candidate} {k : Nat} {t : Span}
    (replied : reply = w.call k t c) (called : Candidate × Nat) :
    (s.heard w called reply).journal = s.journal := by
  have whole : reply.breaksLog = false := replied ▸ keeps.calls k t c
  simp [Scene.heard, Scene.after, Scene.read, whole]

theorem rested_journal (keeps : w.KeepsLog) {nap : Nap} {k : Nat} {t d : Span}
    (napped : nap = w.sleep k t d) : (s.rested d nap).journal = s.journal := by
  have whole : nap.breaksLog = false := napped ▸ keeps.sleeps k t d
  simp [Scene.rested, Scene.after, whole]

theorem resultLevel_not_info (verdict : Verdict) : resultLevel verdict ≠ .info := by
  cases verdict with
  | success | fatal => nofun
  | retryable kind message => cases kind <;> nofun

theorem Writing.answered {startedAt : Span} {reply : Reply} {verdict : Verdict}
    (h : Writing plan w before s (.calling startedAt) p) (keeps : w.KeepsLog)
    (replied : reply = w.call s.calls.length s.now p.rotation.current) :
    let heard := s.heard w (p.rotation.current, p.count + 1) reply
    Heeding plan w before
      (noting w (resultLevel verdict) (resultMessage (p.count + 1) p.rotation.current.label verdict)
        ((p.kept (p.attempt startedAt heard.now verdict)).following (p.count + 1) verdict)
        heard) := by
  intro heard
  obtain ⟨records, log, _⟩ := h.log
  have journal : heard.journal = s.journal := heard_journal keeps replied _
  have called : before.Recorded plan w heard records (p.count + 1) [] :=
    log.call (bytes_of_journal journal) rfl
  refine noting_heeds (journal ▸ h.intact) called
    (fun _ => quiet_level (resultLevel_not_info verdict)) ?_
  intro last records' intact log
  rw [← Progress.count_kept p (p.attempt startedAt heard.now verdict)] at log
  cases verdict with
  | success | fatal => exact ⟨intact, ⟨records', log⟩, nofun⟩
  | retryable => exact writing_of intact log rfl

theorem record_marks (o : Outcome) (intact : before.journal.Intact s.journal)
    (h : before.Recorded plan w s records calls []) :
    Marks plan w before o calls (s.record w o.level o.marker) := by
  rcases record_intact intact h o.level o.marker with ⟨ok, still, log⟩ | ⟨f, error, failed, log⟩
  · exact ⟨_, h.quiet log rfl (quiet_level o.level_not_info),
      Or.inl ⟨ok, still, _, List.getLast?_concat, by rw [markerNote_eq, Outcome.folded_marker]⟩⟩
  · exact ⟨_, log, Or.inr ⟨f, error, failed⟩⟩

theorem writeFinal_marks (o : Outcome) (intact : before.journal.Intact s.journal)
    (h : before.Recorded plan w s records calls []) :
    Marks plan w before o calls (Plan.writeFinal w o s) := by
  unfold Plan.writeFinal
  cases o with
  | interrupted n =>
    have first := record_intact intact h .warn interruptedMessage
    dsimp only at first ⊢
    cases noted : s.record w .warn interruptedMessage with
    | mk result after =>
      rw [noted] at first
      rcases first with ⟨rfl, still, log⟩ | ⟨f, rfl, failed, log⟩
      · have made : after.calls = s.calls := congrArg (fun told => told.2.calls) noted.symm
        exact record_marks _ still (h.quiet log made (quiet_level (by decide)))
      · exact ⟨_, log, Or.inr ⟨f, rfl, failed⟩⟩
  | success | timeout | fatalInput | exhausted => exact record_marks _ intact h

theorem conclude_marks (o : Outcome) (intact : before.journal.Intact s.journal)
    (h : before.Recorded plan w s records calls []) :
    ∃ records', before.Recorded plan w (Plan.conclude w o s).2 records' calls [] ∧
      (((Plan.conclude w o s).1 = .ok () ∧
          Concluded before (Plan.conclude w o s).2 o records') ∨
        ∃ f, (Plan.conclude w o s).1 = .error f ∧
          before.journal.FailedSince (Plan.conclude w o s).2.journal f) := by
  obtain ⟨records', log, ended⟩ := writeFinal_marks o intact h
  have made : (Plan.conclude w o s).2.calls = (Plan.writeFinal w o s).2.calls := by
    rw [conclude_calls]
    exact (writeFinal_keeps Scene.calls w o s fun _ _ _ => rfl).symm
  refine ⟨records', log.same (conclude_bytes o s) made, ?_⟩
  · rw [conclude_eq_close]
    cases told : Plan.writeFinal w o s with
    | mk result after =>
      rw [told] at ended
      rcases ended with ⟨rfl, still, marked⟩ | ⟨f, rfl, failed⟩
      · rcases still.close with ⟨closed, ⟨ok, faultless⟩ | ⟨f, error, failed⟩⟩
        · exact Or.inl ⟨ok, faultless, closed, marked⟩
        · exact Or.inr ⟨f, error, failed⟩
      · exact Or.inr ⟨f, rfl, failed⟩

theorem close_heeds {o : Outcome} {attempts : List Attempt} {wraps : Nat} {startedAt : Span}
    (intact : before.journal.Intact s.journal)
    (h : before.Recorded plan w s records attempts.length [])
    (number : ∀ k, o = .interrupted k → k = attempts.length) :
    Heeding plan w before (Plan.close w o attempts wraps startedAt s) := by
  obtain ⟨records', log, concluded⟩ := conclude_marks o intact h
  rcases close_cases w o attempts wraps startedAt s with ⟨reported, eq⟩ | ⟨f, error, eq⟩ <;> rw [eq]
  · refine ⟨records', log.same rfl rfl, number, ?_⟩
    rcases reported with ok | interrupted
    · rcases concluded with ⟨_, faultless, closed, marked⟩ | ⟨f, error, _⟩
      · exact Or.inr ⟨faultless, closed, marked⟩
      · rw [ok] at error
        contradiction
    · exact Or.inl interrupted
  · rcases concluded with ⟨ok, _⟩ | ⟨f', error', failed⟩
    · rw [ok] at error
      contradiction
    · rw [error] at error'
      cases error'
      exact heeding_failed failed log

theorem header_intact (intact : before.journal.Intact s.journal) (h : Log.Header) :
    let lines := (h.lines (w.stamp s.stamps)).map Text.folded
    let written := s.header w h
    (written.1 = .ok () ∧ before.journal.Intact written.2.journal ∧
      written.2.bytes = s.bytes ++ Log.encodeLines lines) ∨
    ∃ f front, written.1 = .error f ∧ before.journal.FailedSince written.2.journal f ∧
      front <+: lines ∧ written.2.bytes = s.bytes ++ Log.encodeLines front :=
  intact.rawAll _

theorem logFull_nobody (nobody : plan.candidates = []) :
    before.LogFull plan w (before.read w) [] := by
  simp [Scene.LogFull, Scene.preface, nobody, Log.encodeLines]
  rfl

theorem preface_of_some {rotation : Rotation Candidate}
    (found : Rotation.ofList? plan.candidates = some rotation) :
    before.preface plan w = before.headerLines plan w := by
  cases none : plan.candidates with
  | nil =>
    rw [none] at found
    contradiction
  | cons c cs => simp [Scene.preface, none]

theorem nothing_announced (made : s.calls = before.calls) :
    AllAnnounced [] (s.callsSince before ++ []) := by
  have none : s.callsSince before = [] := by rw [Scene.callsSince, made, List.drop_length]
  rw [none]
  exact ⟨.nil, rfl⟩

theorem heeding_start (opened : before.journal.isOpen = true)
    (unlimited : before.journal.sink.limit = none) :
    Heeding plan w before (plan.start w before) := by
  have intact : before.journal.Intact (before.read w).journal :=
    Log.Journal.intact_refl opened unlimited
  rcases start_cases plan w before with ⟨nobody, eq⟩ | ⟨rotation, found, started⟩
  · rw [eq]
    have nothing : before.Recorded plan w (before.read w) [] 0 [] :=
      ⟨logFull_nobody nobody, rfl, nothing_announced rfl⟩
    refine noting_heeds intact nothing (fun _ => quiet_level (by decide)) ?_
    intro s' records' still log
    refine ⟨still, ⟨records', log⟩, ?_⟩
    intro k same
    contradiction
  · have preface : before.preface plan w = before.headerLines plan w := preface_of_some found
    rcases header_intact intact plan.header with
      ⟨ok, still, bytes⟩ | ⟨f, written, error, failed, front, bytes⟩
    · rcases started with ⟨_, eq⟩ | ⟨f, error, _⟩
      · have log : before.Recorded plan w ((before.read w).header w plan.header).2 [] 0 [] := by
          refine ⟨?_, rfl, nothing_announced rfl⟩
          unfold Scene.LogFull
          rw [preface, List.map_nil, List.append_nil]
          exact bytes
        rw [eq]
        exact writing_of still log rfl
      · rw [ok] at error
        contradiction
    · rcases started with ⟨ok, _⟩ | ⟨f', error', eq⟩
      · rw [ok] at error
        contradiction
      · rw [error] at error'
        cases error'
        rw [eq]
        refine ⟨failed, [], Or.inr ⟨rfl, written, preface ▸ front, bytes⟩, ?_⟩
        have announced := @nothing_announced before ((before.read w).header w plan.header).2 rfl
        rwa [List.append_nil] at announced

theorem heeding_alarmed (st : State) (cancels : Bool) (h : Heeding plan w before st) :
    Heeding plan w before (st.alarmed cancels) := by
  obtain ⟨s, phase⟩ := st
  cases phase with
  | going stage p =>
    obtain ⟨intact, records, log, announced⟩ := h
    exact ⟨intact, records, log.same rfl rfl, announced⟩
  | closing o attempts wraps startedAt =>
    obtain ⟨intact, ⟨records, log⟩, number⟩ := h
    exact ⟨intact, ⟨records, log.same rfl rfl⟩, number⟩
  | finished r =>
    obtain ⟨records, log, number, ended⟩ := h
    refine ⟨records, log.same rfl rfl, number, ?_⟩
    rcases ended with interrupted | ⟨faultless, closed, marked⟩
    · exact Or.inl interrupted
    · exact Or.inr ⟨faultless, closed, marked⟩
  | failed f => exact h

theorem heeding_move {st st' : State} (keeps : w.KeepsLog) (move : Move plan w st st')
    (h : Heeding plan w before st) : Heeding plan w before st' := by
  cases move with
  | unlimited | passGoesOn | wokenUnlimited => exact h.onward rfl rfl rfl rfl rfl
  | inBudget | cleared | movedOn | wokenInTime => exact h.onward rfl rfl rfl rfl rfl
  | untallied => exact h.onward rfl rfl rfl rfl rfl
  | interrupted cancelled watched =>
    rcases watched with rfl | rfl | rfl <;> exact h.interrupted rfl rfl rfl
  | spent => exact h.ending rfl rfl rfl nofun
  | exhausted => exact h.ending rfl rfl rfl nofun
  | late bounded late checked =>
    rcases checked with ⟨rfl, _⟩ | rfl <;> exact h.ending rfl rfl rfl nofun
  | @wrapped s p live free due last =>
    obtain ⟨records, log⟩ := h.settled rfl
    refine noting_heeds h.intact (log.same rfl rfl) (fun _ => quiet_start rfl (by decide) _) ?_
    intro s' records' intact log
    exact writing_of intact log rfl
  | @tallied s p sums =>
    obtain ⟨records, log⟩ := h.settled rfl
    refine noting_heeds h.intact (log.same rfl rfl) (fun _ => quiet_start rfl (by decide) _) ?_
    intro s' records' intact log
    exact writing_of intact log rfl
  | held => exact h.pausing rfl rfl rfl
  | waits => exact h.pausing rfl rfl rfl
  | announced live => exact h.announced
  | answered replied judged passed =>
    subst judged passed
    exact h.answered keeps replied
  | roused napped cancels => exact h.interrupted (rested_journal keeps napped) rfl rfl
  | slept napped whole => exact h.onward (rested_journal keeps napped) rfl rfl rfl rfl
  | closed =>
    obtain ⟨intact, ⟨records, log⟩, number⟩ := h
    exact close_heeds intact log number
  | rests => exact h
  | stuck => exact h

/-! ### Calls, and the way to an end -/

theorem calls_move {st st' : State} (move : Move plan w st st') :
    st'.scene.calls = st.scene.calls ∨ ∃ t p, st.phase = .going (.calling t) p ∧
      st'.scene.calls = st.scene.calls ++ [(p.rotation.current, p.count + 1)] := by
  cases same : st.phase.suspended with
  | false =>
    exact Or.inl (field_move Scene.calls (fun _ _ _ => rfl) (fun _ => rfl) (fun _ => rfl) move same)
  | true =>
    cases move with
    | @answered s p t reply verdict heard replied judged passed =>
      subst passed
      refine Or.inr ⟨t, p, rfl, ?_⟩
      rcases noting_cases w (resultLevel verdict) _ _ _ with ⟨_, eq⟩ | ⟨f, _, eq⟩ <;> rw [eq]
      · rfl
      · rfl
    | roused | slept => exact Or.inl rfl
    | interrupted cancelled watched => rcases watched with rfl | rfl | rfl <;> contradiction
    | late bounded late checked => rcases checked with ⟨rfl, _⟩ | rfl <;> contradiction
    | _ => contradiction

def State.Interrupting (st : State) (k : Nat) : Prop :=
  ∃ attempts wraps startedAt, st.phase = .closing (.interrupted k) attempts wraps startedAt

/-- What a run keeps to whose log may fail, at whatever write or at its end. -/
structure FaultsHeeded (plan : Plan) (w : World) (before : Scene) (run : Nat → State) : Prop where
  announced : ∀ n, (run (n + 1)).scene.calls = (run n).scene.calls ∨
    ∃ c number records, (run (n + 1)).scene.calls = (run n).scene.calls ++ [(c, number)] ∧
      number = ((run n).scene.callsSince before).length + 1 ∧
      before.LogFull plan w (run n).scene records ∧ ∃ r ∈ records.getLast?, Announces r number c
  counted : ∀ n, ∃ records, before.LogGot plan w (run n).scene records ∧
    AllAnnounced records ((run n).scene.callsSince before ++ (run n).phase.pending)
  stopped : ∀ n m f, n ≤ m → before.journal.FailedSince (run n).scene.journal f →
    (run m).scene.calls = (run n).scene.calls
  failed_iff : (∃ n f, (run n).phase = .failed f) ↔
    ∃ n f, before.journal.FailedSince (run n).scene.journal f ∧
      ∀ m ≤ n, ∀ k, ¬ (run m).Interrupting k
  failed_fault : ∀ n f, (run n).phase = .failed f →
    before.journal.FailedSince (run n).scene.journal f
  interrupted : ∀ n k, (run n).Interrupting k → ∃ r, (run (n + 1)).phase = .finished r ∧
    r.outcome = .interrupted k ∧ r.outcome.exitCode = 130 ∧
    ((run (n + 1)).scene.callsSince before).length = k
  finished : ∀ n r, (run n).phase = .finished r → (∀ k, r.outcome ≠ .interrupted k) →
    ∃ records, before.LogFull plan w (run n).scene records ∧
      Concluded before (run n).scene r.outcome records

theorem Heeding.at_phase {st : State} {phase : Phase} (h : Heeding plan w before st)
    (here : st.phase = phase) : Heeding plan w before ⟨st.scene, phase⟩ := by
  rw [← here]
  exact h

theorem Heeding.counted {st : State} (h : Heeding plan w before st) :
    ∃ records, before.LogGot plan w st.scene records ∧
      AllAnnounced records (st.scene.callsSince before ++ st.phase.pending) := by
  obtain ⟨s, phase⟩ := st
  cases phase with
  | going stage p =>
    obtain ⟨_, records, log, _⟩ := h
    exact ⟨records, Or.inl log.full, log.announced⟩
  | closing o attempts wraps startedAt =>
    obtain ⟨_, ⟨records, log⟩, _⟩ := h
    exact ⟨records, Or.inl log.full, log.announced⟩
  | finished r =>
    obtain ⟨records, log, _⟩ := h
    exact ⟨records, Or.inl log.full, log.announced⟩
  | failed f =>
    obtain ⟨_, records, got, announced⟩ := h
    refine ⟨records, got, ?_⟩
    show AllAnnounced records (s.callsSince before ++ [])
    rwa [List.append_nil]

theorem Heeding.ends {st : State} {f : FileFault} (h : Heeding plan w before st)
    (failed : before.journal.FailedSince st.scene.journal f) : st.Over := by
  obtain ⟨s, phase⟩ := st
  cases phase with
  | going stage p => exact absurd failed (h.intact.not_failed f)
  | closing o attempts wraps startedAt => exact absurd failed (h.1.not_failed f)
  | finished r => exact Or.inl ⟨r, rfl⟩
  | failed f => exact Or.inr ⟨f, rfl⟩

section Alarmed

variable {alarms : Nat → Bool}

theorem interrupting_of_finished {n k : Nat} {r : RunReport}
    (finished : (plan.alarmedRun w alarms n before).phase = .finished r)
    (outcome : r.outcome = .interrupted k) :
    ∃ m ≤ n, (plan.alarmedRun w alarms m before).Interrupting k := by
  induction n with
  | zero => exact absurd finished (start_unfinished r)
  | succ n ih =>
    have move := step_moves plan w ((plan.alarmedRun w alarms n before).alarmed (alarms n))
    rcases finished_move move finished with already | ⟨attempts, wraps, startedAt, closing⟩
    · obtain ⟨m, early, interrupting⟩ := ih already
      exact ⟨m, Nat.le_succ_of_le early, interrupting⟩
    · rw [outcome] at closing
      exact ⟨n, Nat.le_succ n, attempts, wraps, startedAt, closing⟩

theorem finished_of_interrupting {n k : Nat}
    (interrupting : (plan.alarmedRun w alarms n before).Interrupting k) :
    ∃ r, (plan.alarmedRun w alarms (n + 1) before).phase = .finished r ∧
      r.outcome = .interrupted k := by
  obtain ⟨attempts, wraps, startedAt, closing⟩ := interrupting
  have here : ((plan.alarmedRun w alarms n before).alarmed (alarms n)).phase =
      .closing (.interrupted k) attempts wraps startedAt := closing
  unfold Plan.alarmedRun Plan.step
  rw [here]
  show ∃ r, (Plan.close w (.interrupted k) attempts wraps startedAt _).phase = .finished r ∧ _
  unfold Plan.close
  split
  · exact ⟨_, rfl, rfl⟩
  · exact ⟨_, rfl, rfl⟩
  · rename_i other
    exact absurd rfl (other k)

theorem not_interrupting_of_failed {n m k : Nat} {f : FileFault}
    (failed : (plan.alarmedRun w alarms n before).phase = .failed f) (early : m ≤ n) :
    ¬ (plan.alarmedRun w alarms m before).Interrupting k := by
  intro interrupting
  obtain ⟨r, finished, _⟩ := finished_of_interrupting interrupting
  rcases Nat.eq_or_lt_of_le early with rfl | later
  · obtain ⟨_, _, _, closing⟩ := interrupting
    rw [failed] at closing
    contradiction
  · obtain ⟨cancels, same⟩ := Plan.alarmedRun_of_over later (Or.inl ⟨r, finished⟩)
    rw [same] at failed
    exact absurd (finished.symm.trans failed) nofun

theorem failed_of_fault {n : Nat} {f : FileFault}
    (heeds : Heeding plan w before (plan.alarmedRun w alarms n before))
    (fault : before.journal.FailedSince (plan.alarmedRun w alarms n before).scene.journal f)
    (undecided : ∀ m ≤ n, ∀ k, ¬ (plan.alarmedRun w alarms m before).Interrupting k) :
    ∃ f', (plan.alarmedRun w alarms n before).phase = .failed f' := by
  rcases heeds.ends fault with ⟨r, finished⟩ | failed
  · obtain ⟨_, _, _, ⟨k, outcome⟩ | concluded⟩ := heeds.at_phase finished
    · obtain ⟨m, early, interrupting⟩ := interrupting_of_finished finished outcome
      exact absurd interrupting (undecided m early k)
    · exact absurd fault (concluded.faultless f)
  · exact failed

/-- A run whose log fails heeds it: every call is announced in the file before it is made; after the
first fault there are no more calls, and unless the run had been found interrupted by then, it fails
with that fault; an interrupted run is reported whatever fails, and any other outcome only behind a
log in which nothing failed and which is closed. Which of the writes fail, and whether the end of
the log does, is chosen beforehand; a write that fails leaves nothing. -/
theorem run_heeds_log_faults (opened : before.journal.isOpen = true)
    (unlimited : before.journal.sink.limit = none) (keeps : w.KeepsLog) :
    FaultsHeeded plan w before fun n => plan.alarmedRun w alarms n before := by
  have heeds : ∀ n, Heeding plan w before (plan.alarmedRun w alarms n before) :=
    Plan.alarmedRun_keeps (heeding_start opened unlimited) heeding_alarmed
      fun _ _ move => heeding_move keeps move
  constructor
  case announced =>
    intro n
    have move := step_moves plan w ((plan.alarmedRun w alarms n before).alarmed (alarms n))
    rcases calls_move move with same | ⟨t, p, calling, called⟩
    · exact Or.inl same
    · obtain ⟨_, records, log, announced⟩ := (heeds n).at_phase calling
      refine Or.inr ⟨_, _, records, called, ?_, log.full, announced t rfl⟩
      rw [log.callsSince]
  case counted => exact fun n => (heeds n).counted
  case stopped =>
    intro n m f later fault
    obtain ⟨cancels, same⟩ := Plan.alarmedRun_of_over later ((heeds n).ends fault)
    rw [same]
    rfl
  case failed_iff =>
    constructor
    · rintro ⟨n, f, failed⟩
      exact ⟨n, f, ((heeds n).at_phase failed).1,
        fun m early k => not_interrupting_of_failed failed early⟩
    · rintro ⟨n, f, fault, undecided⟩
      exact ⟨n, failed_of_fault (heeds n) fault undecided⟩
  case failed_fault =>
    intro n f failed
    exact ((heeds n).at_phase failed).1
  case interrupted =>
    intro n k interrupting
    obtain ⟨r, finished, outcome⟩ := finished_of_interrupting interrupting
    obtain ⟨records, log, number, _⟩ := (heeds (n + 1)).at_phase finished
    refine ⟨r, finished, outcome, by rw [outcome]; rfl, ?_⟩
    rw [log.callsSince, number k outcome]
  case finished =>
    intro n r finished other
    obtain ⟨records, log, _, ⟨k, same⟩ | concluded⟩ := (heeds n).at_phase finished
    · exact absurd same (other k)
    · exact ⟨records, log.full, concluded⟩

def faultyLog : Scene where
  journal :=
    { sink :=
        { faults := fun k => if k = 11 then some .tooLarge else none
          syncFault := some .notFound } }

theorem rehearsal_heeds_log_faults :
    (faultyLog.journal.isOpen = true ∧ faultyLog.journal.sink.limit = none ∧
      rehearsalWorld.KeepsLog) ∧
    FaultsHeeded rehearsal rehearsalWorld faultyLog
      (fun n => rehearsal.alarmedRun rehearsalWorld (fun _ => false) n faultyLog) ∧
    ∃ n, (rehearsal.alarmedRun rehearsalWorld (fun _ => false) n faultyLog).phase =
      .failed .tooLarge := by
  have keeps : rehearsalWorld.KeepsLog := ⟨fun _ _ _ => rfl, fun _ _ _ => rfl⟩
  refine ⟨⟨rfl, rfl, keeps⟩, run_heeds_log_faults rfl rfl keeps, 40, ?_⟩
  rw [Plan.alarmedRun_silent]
  rfl

end Alarmed

end Run

end BookingRetry
