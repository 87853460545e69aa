import BookingRetry.Proofs.Run.Summary

/-!
How often a run sums up makes no difference to anything else it does. A summary costs no time on a
clock that moves in calls and sleeps only, and nothing that is decided later depends on it; so two
runs that differ in this setting take the same steps one beside the other, and their logs are the
same but for the summaries.
-/
namespace BookingRetry.Run

def Plan.summing (plan : Plan) (every : Nat) : Plan :=
  { plan with settings := { plan.settings with summaryEvery := every } }

/-- Two worlds bring the same answers and the same sleeps, and their clocks move in nothing else.
Their calendars may differ. -/
structure World.Alike (w w' : World) : Prop where
  call_eq : w'.call = w.call
  sleep_eq : w'.sleep = w.sleep
  still : w.Still
  still' : w'.Still

/-- What the records say that are no summaries, without their stamps. -/
def otherNotes (records : List Log.Record) : List Note :=
  (records.filter fun r => !r.summarises).map fun r => ⟨r.level, r.message⟩

/-- Since a scene two logs have got the same records, but for summaries and stamps. -/
structure LogsAgree (plan : Plan) (every : Nat) (w w' : World) (before s s' : Scene)
    (records records' : List Log.Record) : Prop where
  full : before.LogFull plan w s records
  full' : before.LogFull (plan.summing every) w' s' records'
  notes_eq : otherNotes records' = otherNotes records
  dated : ∀ r ∈ records, ∃ k, r.stamp = w.stamp k
  dated' : ∀ r ∈ records', ∃ k, r.stamp = w'.stamp k

/-- Two runs stand at the same time with the same calls and sleeps behind them, and their open logs
agree. -/
structure Scene.AgreesWith (plan : Plan) (every : Nat) (w w' : World) (before s s' : Scene) :
    Prop where
  opened : s.journal.isOpen = true
  opened' : s'.journal.isOpen = true
  now_eq : s'.now = s.now
  cancelled_eq : s'.cancelled = s.cancelled
  calls_eq : s'.calls = s.calls
  sleeps_eq : s'.sleeps = s.sleeps
  logs : ∃ records records', LogsAgree plan every w w' before s s' records records'

structure State.AgreesWith (plan : Plan) (every : Nat) (w w' : World) (before : Scene)
    (st st' : State) : Prop where
  phase_eq : st'.phase = st.phase
  logs : ∃ records records', LogsAgree plan every w w' before st.scene st'.scene records records'
  scenes : ¬ st.Over → Scene.AgreesWith plan every w w' before st.scene st'.scene

structure Scene.SummedUp (plan : Plan) (w : World) (before s last : Scene)
    (records : List Log.Record) : Prop where
  opened : last.journal.isOpen = true
  now_eq : last.now = s.now
  cancelled_eq : last.cancelled = s.cancelled
  calls_eq : last.calls = s.calls
  sleeps_eq : last.sleeps = s.sleeps
  log : ∃ more, before.LogFull plan w last (records ++ more) ∧ otherNotes more = [] ∧
    ((∀ r ∈ records, ∃ k, r.stamp = w.stamp k) → ∀ r ∈ records ++ more, ∃ k, r.stamp = w.stamp k)

/-- Two runs agree, unless the log of one has failed. -/
def AgreeUnlessFailed (plan : Plan) (every : Nat) (w w' : World) (before : Scene)
    (st st' : State) : Prop :=
  (∀ f, st.phase ≠ .failed f) → (∀ f, st'.phase ≠ .failed f) →
    State.AgreesWith plan every w w' before st st'

variable {plan : Plan} {every : Nat} {w w' : World} {before s s' : Scene} {p : Progress}
variable {level : Log.Level} {message : Text}

/-! ### Records -/

theorem otherNotes_append (records more : List Log.Record) :
    otherNotes (records ++ more) = otherNotes records ++ otherNotes more := by
  simp [otherNotes]

theorem otherNotes_unsummed {r : Log.Record} (other : r.summarises = false) :
    otherNotes [r] = [⟨r.level, r.message⟩] := by
  simp [otherNotes, other]

theorem otherNotes_summary {r : Log.Record} (summary : r.summarises = true) :
    otherNotes [r] = [] := by
  simp [otherNotes, summary]

theorem record_full {plan : Plan} {records : List Log.Record} (opened : s.journal.isOpen = true)
    (full : before.LogFull plan w s records) (written : (s.record w level message).1 = .ok ()) :
    (s.record w level message).2.journal.isOpen = true ∧
      before.LogFull plan w (s.record w level message).2
        (records ++ [⟨w.stamp s.stamps, level, Text.folded message⟩]) := by
  rcases record_adds opened full level message with ⟨_, still, longer⟩ | ⟨f, part, error, _⟩
  · exact ⟨still, longer⟩
  · rw [written] at error
    contradiction

theorem dated_concat {records : List Log.Record} (dated : ∀ r ∈ records, ∃ k, r.stamp = w.stamp k)
    (k : Nat) :
    ∀ r ∈ records ++ [⟨w.stamp k, level, message⟩], ∃ k, r.stamp = w.stamp k := by
  intro r member
  rcases List.mem_append.mp member with old | new
  · exact dated r old
  · rw [List.mem_singleton.mp new]
    exact ⟨k, rfl⟩

theorem LogsAgree.same {records records' : List Log.Record} {last last' : Scene}
    (h : LogsAgree plan every w w' before s s' records records') (bytes : last.bytes = s.bytes)
    (bytes' : last'.bytes = s'.bytes) :
    ∃ records records', LogsAgree plan every w w' before last last' records records' :=
  ⟨records, records', { h with full := h.full.same bytes, full' := h.full'.same bytes' }⟩

theorem record_agrees (h : Scene.AgreesWith plan every w w' before s s')
    (unsummed : ∀ stamp, Log.Record.summarises ⟨stamp, level, Text.folded message⟩ = false)
    (written : (s.record w level message).1 = .ok ())
    (written' : (s'.record w' level message).1 = .ok ()) :
    Scene.AgreesWith plan every w w' before (s.record w level message).2
      (s'.record w' level message).2 := by
  obtain ⟨records, records', agree⟩ := h.logs
  obtain ⟨opened, full⟩ := record_full h.opened agree.full written
  obtain ⟨opened', full'⟩ := record_full h.opened' agree.full' written'
  have notes : otherNotes (records' ++ [⟨w'.stamp s'.stamps, level, Text.folded message⟩]) =
      otherNotes (records ++ [⟨w.stamp s.stamps, level, Text.folded message⟩]) := by
    rw [otherNotes_append, otherNotes_append, agree.notes_eq, otherNotes_unsummed (unsummed _),
      otherNotes_unsummed (unsummed _)]
  exact
    { opened := opened
      opened' := opened'
      now_eq := h.now_eq
      cancelled_eq := h.cancelled_eq
      calls_eq := h.calls_eq
      sleeps_eq := h.sleeps_eq
      logs := ⟨_, _, full, full', notes, dated_concat agree.dated _,
        dated_concat agree.dated' _⟩ }

/-! ### The parts of a step -/

theorem Scene.AgreesWith.inPhase (h : Scene.AgreesWith plan every w w' before s s')
    (phase : Phase) :
    AgreeUnlessFailed plan every w w' before ⟨s, phase⟩ ⟨s', phase⟩ :=
  fun _ _ => ⟨rfl, h.logs, fun _ => h⟩

theorem Scene.AgreesWith.read (h : Scene.AgreesWith plan every w w' before s s')
    (alike : w.Alike w') : Scene.AgreesWith plan every w w' before (s.read w) (s'.read w') :=
  { h with
    now_eq := by rw [read_still alike.still, read_still alike.still', h.now_eq]
    logs := by
      obtain ⟨_, _, agree⟩ := h.logs
      exact agree.same rfl rfl }

theorem noting_agree (h : Scene.AgreesWith plan every w w' before s s')
    (unsummed : ∀ stamp, Log.Record.summarises ⟨stamp, level, Text.folded message⟩ = false)
    (next : Phase) :
    AgreeUnlessFailed plan every w w' before (noting w level message next s)
      (noting w' level message next s') := by
  intro going going'
  rcases noting_cases w level message next s with ⟨written, eq⟩ | ⟨f, _, eq⟩
  · rcases noting_cases w' level message next s' with ⟨written', eq'⟩ | ⟨f, _, eq'⟩
    · rw [eq] at going ⊢
      rw [eq'] at going' ⊢
      exact (record_agrees h unsummed written written').inPhase next going going'
    · rw [eq'] at going'
      exact absurd rfl (going' f)
  · rw [eq] at going
    exact absurd rfl (going f)

theorem pausing_agree (h : Scene.AgreesWith plan every w w' before s s') (d : Span)
    (p : Progress) : AgreeUnlessFailed plan every w w' before (pausing d p s) (pausing d p s') := by
  unfold pausing
  rw [h.cancelled_eq]
  split
  · exact h.inPhase _
  · split
    · exact h.inPhase _
    · exact h.inPhase _

theorem unlessPast_agree (h : Scene.AgreesWith plan every w w' before s s') (alike : w.Alike w')
    (p : Progress) {next : Scene → State}
    (onward : ∀ {s s' : Scene}, Scene.AgreesWith plan every w w' before s s' →
      AgreeUnlessFailed plan every w w' before (next s) (next s')) :
    AgreeUnlessFailed plan every w w' before (unlessPast w p s next) (unlessPast w' p s' next) := by
  have read := h.read alike
  unfold unlessPast
  cases p.deadline with
  | none => exact onward h
  | some deadline =>
    dsimp only
    rw [read.now_eq]
    split
    · exact onward read
    · exact noting_agree read (fun _ => unsummed_of_level (by decide)) _

theorem budget_agree (h : Scene.AgreesWith plan every w w' before s s') (alike : w.Alike w')
    (p : Progress) :
    AgreeUnlessFailed plan every w w' before (Plan.budget w p s) (Plan.budget w' p s') := by
  have read := h.read alike
  unfold Plan.budget
  cases p.deadline with
  | none => exact h.inPhase _
  | some deadline =>
    dsimp only
    rw [read.now_eq]
    split
    · exact read.inPhase _
    · exact noting_agree read (fun _ => unsummed_of_level (by decide)) _

theorem moving_agree (h : Scene.AgreesWith plan every w w' before s s') (p : Progress) :
    AgreeUnlessFailed plan every w w' before (Plan.moving w p s) (Plan.moving w' p s') := by
  unfold Plan.moving
  split
  · dsimp only
    split
    · exact noting_agree h (fun _ => unsummed_of_start rfl (by decide) _) _
    · exact h.inPhase _
  · exact h.inPhase _

theorem probe_agree (h : Scene.AgreesWith plan every w w' before s s') (alike : w.Alike w')
    (p : Progress) :
    AgreeUnlessFailed plan every w w' before (Plan.probe w p s) (Plan.probe w' p s') := by
  have read := h.read alike
  unfold Plan.probe
  dsimp only
  rw [read.now_eq]
  split
  · exact moving_agree read p
  · exact pausing_agree read _ p

theorem announce_agree (h : Scene.AgreesWith plan every w w' before s s') (alike : w.Alike w')
    (p : Progress) :
    AgreeUnlessFailed plan every w w' before (Plan.announce w p s) (Plan.announce w' p s') := by
  intro going going'
  rcases announce_cases w p s with ⟨written, eq⟩ | ⟨f, _, eq⟩
  · rcases announce_cases w' p s' with ⟨written', eq'⟩ | ⟨f, _, eq'⟩
    · have noted : Scene.AgreesWith plan every w w' before (p.announced w s).2
          (p.announced w' s').2 :=
        record_agrees h (fun _ => unsummed_of_start rfl (by decide) _) written written'
      have read := noted.read alike
      rw [eq] at going ⊢
      rw [eq', read.now_eq] at going' ⊢
      exact read.inPhase _ going going'
    · rw [eq'] at going'
      exact absurd rfl (going' f)
  · rw [eq] at going
    exact absurd rfl (going f)

theorem Scene.AgreesWith.after (h : Scene.AgreesWith plan every w w' before s s') (passed : Span)
    (cancels breaksLog : Bool) :
    Scene.AgreesWith plan every w w' before (s.after passed cancels breaksLog)
      (s'.after passed cancels breaksLog) := by
  obtain ⟨_, _, agree⟩ := h.logs
  -- A log that takes nothing more still has what it has.
  have bytes (s : Scene) : (s.after passed cancels breaksLog).bytes = s.bytes := by
    cases breaksLog <;> rfl
  have opened (s : Scene) :
      (s.after passed cancels breaksLog).journal.isOpen = s.journal.isOpen := by
    cases breaksLog <;> rfl
  exact
    { opened := (opened s).trans h.opened
      opened' := (opened s').trans h.opened'
      now_eq := by simp [Scene.after, h.now_eq]
      cancelled_eq := by simp [Scene.after, h.cancelled_eq]
      calls_eq := h.calls_eq
      sleeps_eq := h.sleeps_eq
      logs := agree.same (bytes s) (bytes s') }

theorem answered_agree (h : Scene.AgreesWith plan every w w' before s s') (alike : w.Alike w')
    (startedAt : Span) (reply : Reply) (p : Progress) :
    AgreeUnlessFailed plan every w w' before (plan.answered w startedAt reply p s)
      ((plan.summing every).answered w' startedAt reply p s') := by
  have called : Scene.AgreesWith plan every w w' before
      { s with calls := s.calls ++ [(p.rotation.current, p.count + 1)] }
      { s' with calls := s'.calls ++ [(p.rotation.current, p.count + 1)] } :=
    { h with
      calls_eq := by rw [h.calls_eq]
      logs := by
        obtain ⟨_, _, agree⟩ := h.logs
        exact agree.same rfl rfl }
  have heard : Scene.AgreesWith plan every w w' before
      (s.heard w (p.rotation.current, p.count + 1) reply)
      (s'.heard w' (p.rotation.current, p.count + 1) reply) :=
    (called.after reply.latency reply.cancels reply.breaksLog).read alike
  rw [answered_eq_noting, answered_eq_noting]
  dsimp only
  rw [heard.now_eq]
  exact noting_agree heard (fun _ => unsummed_of_level (resultLevel_not_info _)) _

theorem slept_agree (h : Scene.AgreesWith plan every w w' before s s') (d : Span) (nap : Nap)
    (p : Progress) :
    AgreeUnlessFailed plan every w w' before (Plan.slept d nap p s) (Plan.slept d nap p s') := by
  have slept : Scene.AgreesWith plan every w w' before { s with sleeps := s.sleeps ++ [d] }
      { s' with sleeps := s'.sleeps ++ [d] } :=
    { h with
      sleeps_eq := by rw [h.sleeps_eq]
      logs := by
        obtain ⟨_, _, agree⟩ := h.logs
        exact agree.same rfl rfl }
  have rested := slept.after nap.passed nap.cancels nap.breaksLog
  unfold Plan.slept
  split
  · exact rested.inPhase _
  · exact rested.inPhase _

theorem settle_agree (h : Scene.AgreesWith plan every w w' before s s') (alike : w.Alike w')
    (p : Progress) :
    AgreeUnlessFailed plan every w w' before (plan.settle w p s)
      ((plan.summing every).settle w' p s') := by
  unfold Plan.settle
  cases p.deadline with
  | none =>
    dsimp only
    split
    · exact noting_agree h (fun _ => unsummed_of_level (by decide)) _
    · exact h.inPhase _
  | some d => exact unlessPast_agree h alike p fun h => pausing_agree h _ p

/-! ### Summaries -/

theorem tally_sums {plan : Plan} {records : List Log.Record} (opened : s.journal.isOpen = true)
    (full : before.LogFull plan w s records) (still : w.Still) (made : p.attempts ≠ [])
    (counted : FailuresCounted p)
    (going : ∀ f, (plan.tally w p s).phase ≠ .failed f) :
    ∃ last, plan.tally w p s = ⟨last, .going .settling p.due⟩ ∧
      Scene.SummedUp plan w before s last records := by
  unfold Plan.tally at going ⊢
  dsimp only at going ⊢
  split at going
  · rename_i undue
    rw [if_pos undue]
    refine ⟨s, rfl, opened, rfl, rfl, rfl, rfl, [], ?_, rfl, ?_⟩
    · rwa [List.append_nil]
    · rw [List.append_nil]
      exact id
  · rename_i due
    rw [if_neg due]
    rcases noting_cases w .info _ _ (s.read w) with ⟨written, eq⟩ | ⟨f, _, eq⟩
    · have adds := record_full (s := s.read w) opened (full.same rfl) written
      have summary := summary_summarises counted made
      refine ⟨_, eq, adds.1, read_still still s, rfl, rfl, rfl, _, adds.2, ?_, ?_⟩
      · exact otherNotes_summary (summary _ _ _).summarises
      · exact fun dated => dated_concat dated _
    · rw [eq] at going
      exact absurd rfl (going f)

theorem tally_agree (h : Scene.AgreesWith plan every w w' before s s') (alike : w.Alike w')
    (made : p.attempts ≠ []) (counted : FailuresCounted p) :
    AgreeUnlessFailed plan every w w' before (plan.tally w p s)
      ((plan.summing every).tally w' p s') := by
  intro going going'
  obtain ⟨records, records', agree⟩ := h.logs
  obtain ⟨last, eq, summed⟩ := tally_sums h.opened agree.full alike.still made counted going
  obtain ⟨last', eq', summed'⟩ :=
    tally_sums h.opened' agree.full' alike.still' made counted going'
  obtain ⟨more, full, silent, dated⟩ := summed.log
  obtain ⟨more', full', silent', dated'⟩ := summed'.log
  have both : Scene.AgreesWith plan every w w' before last last' :=
    { opened := summed.opened
      opened' := summed'.opened
      now_eq := by rw [summed'.now_eq, summed.now_eq, h.now_eq]
      cancelled_eq := by rw [summed'.cancelled_eq, summed.cancelled_eq, h.cancelled_eq]
      calls_eq := by rw [summed'.calls_eq, summed.calls_eq, h.calls_eq]
      sleeps_eq := by rw [summed'.sleeps_eq, summed.sleeps_eq, h.sleeps_eq]
      logs := by
        refine ⟨_, _, full, full', ?_, dated agree.dated, dated' agree.dated'⟩
        rw [otherNotes_append, otherNotes_append, silent, silent', agree.notes_eq] }
  rw [eq, eq']
  exact both.inPhase _ nofun nofun

/-! ### The start, every step and the end -/

theorem writeFinal_agrees (h : Scene.AgreesWith plan every w w' before s s') {o : Outcome}
    (told : (Plan.writeFinal w o s).1 = .ok ()) (told' : (Plan.writeFinal w' o s').1 = .ok ()) :
    Scene.AgreesWith plan every w w' before (Plan.writeFinal w o s).2
      (Plan.writeFinal w' o s').2 := by
  unfold Plan.writeFinal at told told' ⊢
  cases o with
  | interrupted n =>
    have first := @record_agrees plan every w w' before s s' .warn interruptedMessage h
      fun _ => unsummed_of_level (by decide)
    dsimp only at told told' ⊢
    cases noted : s.record w .warn interruptedMessage with
    | mk result after =>
      cases noted' : s'.record w' .warn interruptedMessage with
      | mk result' after' =>
        rw [noted] at first told
        rw [noted'] at first told'
        cases result with
        | error f => contradiction
        | ok u =>
          cases result' with
          | error f => contradiction
          | ok u =>
            exact record_agrees (first rfl rfl)
              (fun _ => unsummed_of_level (Outcome.level_not_info _)) told told'
  | success | timeout | fatalInput | exhausted =>
    exact record_agrees h (fun _ => unsummed_of_level (Outcome.level_not_info _)) told told'

theorem close_agrees (h : Scene.AgreesWith plan every w w' before s s') (alike : w.Alike w')
    {o : Outcome} (concluded : (Plan.conclude w o s).1 = .ok ())
    (concluded' : (Plan.conclude w' o s').1 = .ok ()) (attempts : List Attempt) (wraps : Nat)
    (startedAt : Span) :
    State.AgreesWith plan every w w' before (Plan.close w o attempts wraps startedAt s)
      (Plan.close w' o attempts wraps startedAt s') := by
  have last := writeFinal_agrees h (writeFinal_ok_of_conclude concluded)
    (writeFinal_ok_of_conclude concluded')
  obtain ⟨_, _, agree⟩ := last.logs
  have now : ((Plan.conclude w' o s').2.read w').now = ((Plan.conclude w o s).2.read w).now := by
    rw [read_still alike.still, read_still alike.still', conclude_now, conclude_now, h.now_eq]
  rcases close_cases w o attempts wraps startedAt s with ⟨_, eq⟩ | ⟨f, error, _⟩
  · rcases close_cases w' o attempts wraps startedAt s' with ⟨_, eq'⟩ | ⟨f, error, _⟩
    · rw [eq, eq', now]
      exact ⟨rfl, agree.same (conclude_bytes o s) (conclude_bytes o s'),
        fun going => absurd (Or.inl ⟨_, rfl⟩) going⟩
    · rw [concluded'] at error
      contradiction
  · rw [concluded] at error
    contradiction

theorem start_writes {plan : Plan} {rotation : Rotation Candidate}
    (found : Rotation.ofList? plan.candidates = some rotation)
    (opened : before.journal.isOpen = true) (going : ∀ f, (plan.start w before).phase ≠ .failed f) :
    let written := (before.read w).header w plan.header
    plan.start w before =
      ⟨written.2, .going .budgeting (plan.opening rotation (before.read w).now)⟩ ∧
      written.2.journal.isOpen = true ∧ before.LogFull plan w written.2 [] := by
  intro written
  rcases start_cases plan w before with ⟨nobody, _⟩ | ⟨_, other, ⟨ok, eq⟩ | ⟨f, _, eq⟩⟩
  · rw [nobody] at found
    contradiction
  · rw [found] at other
    cases other
    rcases header_adds found opened with ⟨_, still, full⟩ | ⟨f, error, _⟩
    · exact ⟨eq, still, full⟩
    · rw [ok] at error
      contradiction
  · rw [eq] at going
    exact absurd rfl (going f)

theorem start_agree (opened : before.journal.isOpen = true) (alike : w.Alike w') :
    AgreeUnlessFailed plan every w w' before (plan.start w before)
      ((plan.summing every).start w' before) := by
  intro going going'
  have now : (before.read w').now = (before.read w).now := by
    rw [read_still alike.still, read_still alike.still']
  cases found : Rotation.ofList? plan.candidates with
  | none =>
    have nobody : plan.candidates = [] := Rotation.ofList?_eq_none found
    have both : Scene.AgreesWith plan every w w' before (before.read w) (before.read w') :=
      { opened := opened
        opened' := opened
        now_eq := now
        cancelled_eq := rfl
        calls_eq := rfl
        sleeps_eq := rfl
        logs := ⟨[], [], logFull_nobody nobody, logFull_nobody nobody, rfl, List.forall_mem_nil _,
          List.forall_mem_nil _⟩ }
    have found' : Rotation.ofList? (plan.summing every).candidates = none := found
    unfold Plan.start at going going' ⊢
    simp only [found, found', now] at going going' ⊢
    exact noting_agree both (fun _ => unsummed_of_level (by decide)) _ going going'
  | some rotation =>
    obtain ⟨eq, still, full⟩ := start_writes found opened going
    obtain ⟨eq', still', full'⟩ :=
      @start_writes w' before (plan.summing every) rotation found opened going'
    have both : Scene.AgreesWith plan every w w' before ((before.read w).header w plan.header).2
        ((before.read w').header w' (plan.summing every).header).2 :=
      { opened := still
        opened' := still'
        now_eq := now
        cancelled_eq := rfl
        calls_eq := rfl
        sleeps_eq := rfl
        logs := ⟨[], [], full, full', rfl, List.forall_mem_nil _, List.forall_mem_nil _⟩ }
    rw [eq, eq', now]
    exact both.inPhase _ nofun nofun

theorem step_agrees {st st' : State} (alike : w.Alike w')
    (h : State.AgreesWith plan every w w' before st st') (sums : SumsUp plan w before st)
    (counted : Tallied st)
    (concluded : ∀ o attempts wraps startedAt, st.phase = .closing o attempts wraps startedAt →
      (Plan.conclude w o st.scene).1 = .ok ())
    (concluded' : ∀ o attempts wraps startedAt, st'.phase = .closing o attempts wraps startedAt →
      (Plan.conclude w' o st'.scene).1 = .ok ()) :
    AgreeUnlessFailed plan every w w' before (plan.step w st)
      ((plan.summing every).step w' st') := by
  obtain ⟨s, phase⟩ := st
  obtain ⟨s', phase'⟩ := st'
  obtain ⟨same, logs, scenes⟩ := h
  dsimp only at same logs scenes concluded concluded'
  subst same
  cases phase' with
  | going stage p =>
    have both := scenes (by rintro (⟨r, same⟩ | ⟨f, same⟩) <;> contradiction)
    cases stage with
    | budgeting => exact budget_agree both alike p
    | probing =>
      simp only [Plan.step, both.cancelled_eq]
      split
      · exact both.inPhase _
      · exact probe_agree both alike p
    | starting =>
      simp only [Plan.step, both.cancelled_eq]
      split
      · exact both.inPhase _
      · exact announce_agree both alike p
    | calling startedAt =>
      simp only [Plan.step, both.calls_eq, both.now_eq, alike.call_eq]
      exact answered_agree both alike startedAt _ p
    | tallying =>
      obtain ⟨_, _, unsummed⟩ := sums.log
      exact tally_agree both alike (Unsummed.made unsummed) (counted _ _ rfl)
    | settling =>
      simp only [Plan.step, both.cancelled_eq]
      split
      · exact both.inPhase _
      · exact settle_agree both alike p
    | waiting d =>
      simp only [Plan.step, both.sleeps_eq, both.now_eq, alike.sleep_eq]
      exact slept_agree both d _ p
    | woken => exact unlessPast_agree both alike p fun h => h.inPhase _
  | closing o attempts wraps startedAt =>
    have both := scenes (by rintro (⟨r, same⟩ | ⟨f, same⟩) <;> contradiction)
    exact fun _ _ => close_agrees both alike (concluded _ _ _ _ rfl) (concluded' _ _ _ _ rfl)
      attempts wraps startedAt
  | finished r =>
    exact fun _ _ => ⟨rfl, logs, fun going => absurd (Or.inl ⟨r, rfl⟩) going⟩
  | failed f => exact fun going _ => absurd rfl (going f)

theorem alarmed_agrees {st st' : State} (h : State.AgreesWith plan every w w' before st st')
    (cancels : Bool) :
    State.AgreesWith plan every w w' before (st.alarmed cancels) (st'.alarmed cancels) := by
  obtain ⟨_, _, agree⟩ := h.logs
  refine ⟨h.phase_eq, agree.same rfl rfl, fun going => ?_⟩
  have both := h.scenes going
  exact
    { both with
      cancelled_eq := congrArg (· || cancels) both.cancelled_eq
      logs := agree.same rfl rfl }

theorem run_agrees {alarms : Nat → Bool} (opened : before.journal.isOpen = true)
    (alike : w.Alike w') (holds : plan.LogHoldsUnder w alarms before)
    (holds' : (plan.summing every).LogHoldsUnder w' alarms before) (n : Nat) :
    State.AgreesWith plan every w w' before (plan.alarmedRun w alarms n before)
      ((plan.summing every).alarmedRun w' alarms n before) := by
  induction n with
  | zero => exact start_agree opened alike (holds 0).1 (holds' 0).1
  | succ n ih =>
    have sums : SumsUp plan w before ((plan.alarmedRun w alarms n before).alarmed (alarms n)) :=
      sums_alarmed _ _ (run_sums opened alarms n)
    have counted : Tallied ((plan.alarmedRun w alarms n before).alarmed (alarms n)) :=
      tallied_alarmed _ _ (alarmedRun_tallied alarms n)
    exact step_agrees alike (alarmed_agrees ih (alarms n)) sums counted (holds n).2 (holds' n).2
      (holds (n + 1)).1 (holds' (n + 1)).1

/-! ### Exact summaries that change nothing else -/

/-- Two runs come to the same, and their logs differ in summaries and stamps only. On calendars that
both stand still on one stamp, the logs are equal but for the summaries. -/
structure SameButSummaries (plan : Plan) (every : Nat) (w w' : World) (before : Scene)
    (st st' : State) : Prop where
  phase_eq : st'.phase = st.phase
  report_iff : ∀ r, st'.phase = .finished r ↔ st.phase = .finished r
  logs : ∃ records records', before.LogFull plan w st.scene records ∧
    before.LogFull (plan.summing every) w' st'.scene records' ∧
    otherNotes records' = otherNotes records ∧
    ∀ t, (∀ k, w.stamp k = t) → (∀ k, w'.stamp k = t) →
      before.preface (plan.summing every) w' = before.preface plan w ∧
      (records'.filter fun r => !r.summarises) = records.filter fun r => !r.summarises

theorem eq_of_otherNotes {records records' : List Log.Record} {t : Stamp}
    (dated : ∀ r ∈ records, r.stamp = t) (dated' : ∀ r ∈ records', r.stamp = t)
    (same : otherNotes records' = otherNotes records) :
    (records'.filter fun r => !r.summarises) = records.filter fun r => !r.summarises := by
  let restored (n : Note) : Log.Record := ⟨t, n.level, n.message⟩
  have restores {records : List Log.Record} (dated : ∀ r ∈ records, r.stamp = t) :
      (otherNotes records).map restored = records.filter fun r => !r.summarises := by
    have own : ∀ r ∈ records.filter fun r => !r.summarises,
        restored ⟨r.level, r.message⟩ = id r := by
      intro r member
      show Log.Record.mk t r.level r.message = r
      rw [← dated r (List.mem_of_mem_filter member)]
    unfold otherNotes
    rw [List.map_map]
    exact (List.map_congr_left own).trans (List.map_id _)
  rw [← restores dated, ← restores dated', same]

theorem preface_summing (same : w'.stamp before.stamps = w.stamp before.stamps) :
    before.preface (plan.summing every) w' = before.preface plan w := by
  unfold Scene.preface Scene.headerLines
  rw [same]
  rfl

theorem State.AgreesWith.sameButSummaries {st st' : State}
    (h : State.AgreesWith plan every w w' before st st') :
    SameButSummaries plan every w w' before st st' where
  phase_eq := h.phase_eq
  report_iff r := by rw [h.phase_eq]
  logs := by
    obtain ⟨records, records', agree⟩ := h.logs
    refine ⟨records, records', agree.full, agree.full', agree.notes_eq, fun t stands stands' => ?_⟩
    have dated : ∀ r ∈ records, r.stamp = t := by
      intro r member
      obtain ⟨k, stamp⟩ := agree.dated r member
      exact stamp.trans (stands k)
    have dated' : ∀ r ∈ records', r.stamp = t := by
      intro r member
      obtain ⟨k, stamp⟩ := agree.dated' r member
      exact stamp.trans (stands' k)
    exact ⟨preface_summing (by rw [stands, stands']),
      eq_of_otherNotes dated dated' agree.notes_eq⟩

/-- What a run says in its summaries is exact, and it makes no difference to anything else. Whatever
a vendor answers, whenever the token becomes cancelled and whatever fails in the log, a summary
stands right behind the result of each failed attempt that is due one by its number and may be made
again, and nowhere else; it has this number, and says how all attempts so far have failed, from a
count that the run has kept of them. A run
that has failed may be short of the last one. With summaries after no attempts there are none. Runs
in like worlds that differ in how often they sum up are, if nothing fails in their logs, the same
step by step, with the same report and with logs that differ in summaries only. -/
theorem summaries_exact (opened : before.journal.isOpen = true) :
    (∀ alarms n, Tallied (plan.alarmedRun w alarms n before) ∧
      SumsUp plan w before (plan.alarmedRun w alarms n before)) ∧
    (∀ attempts records, Summed plan attempts records →
      List.Forall₂ (fun a r => Summarises (attempts.take a.number) r)
        (attempts.filter fun a => plan.DueAfter a) (records.filter Log.Record.summarises)) ∧
    (plan.settings.summaryEvery = 0 → ∀ attempts records,
      Summed plan attempts records ∨ Unsummed plan attempts records →
      ∀ r ∈ records, r.summarises = false) ∧
    ∀ every w' alarms, w.Alike w' → plan.LogHoldsUnder w alarms before →
      (plan.summing every).LogHoldsUnder w' alarms before →
      ∀ n, SameButSummaries plan every w w' before (plan.alarmedRun w alarms n before)
        ((plan.summing every).alarmedRun w' alarms n before) := by
  refine ⟨fun alarms n => ⟨alarmedRun_tallied alarms n, run_sums opened alarms n⟩, ?_, ?_, ?_⟩
  · intro attempts records summed
    simpa using summed.each []
  · intro never attempts records told r member
    rcases told with summed | unsummed
    · exact summed.never never member
    · exact unsummed.never never member
  · intro every w' alarms alike holds holds' n
    exact (run_agrees opened alike holds holds' n).sameButSummaries

theorem rehearsal_summaries_exact :
    let silent : Nat → Bool := fun _ => false
    ({} : Scene).journal.isOpen = true ∧ rehearsalWorld.Alike rehearsalWorld ∧
      rehearsal.LogHoldsUnder rehearsalWorld silent {} ∧
      (rehearsal.summing 0).LogHoldsUnder rehearsalWorld silent {} ∧
      SumsUp rehearsal rehearsalWorld {} (rehearsal.alarmedRun rehearsalWorld silent 40 {}) ∧
      SameButSummaries rehearsal 0 rehearsalWorld rehearsalWorld {}
        (rehearsal.alarmedRun rehearsalWorld silent 40 {})
        ((rehearsal.summing 0).alarmedRun rehearsalWorld silent 40 {}) ∧
      ∃ r, (rehearsal.run rehearsalWorld 40 {}).phase = .finished r ∧
        (r.attempts.filter fun a => rehearsal.DueAfter a).map Attempt.number = [2] := by
  intro silent
  have alike : rehearsalWorld.Alike rehearsalWorld := ⟨rfl, rfl, fun _ => rfl, fun _ => rfl⟩
  have keeps : rehearsalWorld.KeepsLog := ⟨fun _ _ _ => rfl, fun _ _ _ => rfl⟩
  have sound : ({} : Scene).journal.Sound := ⟨rfl, fun _ => rfl, rfl⟩
  have holds : rehearsal.LogHoldsUnder rehearsalWorld silent {} :=
    logHoldsUnder_of_sound keeps sound silent
  have holds' : (rehearsal.summing 0).LogHoldsUnder rehearsalWorld silent {} :=
    logHoldsUnder_of_sound keeps sound silent
  obtain ⟨sums, _, _, same⟩ := @summaries_exact rehearsal rehearsalWorld {} rfl
  refine ⟨rfl, alike, holds, holds', ?_, ?_, _, rfl, by decide⟩
  · have each := sums silent
    generalize 40 = n
    exact (each n).2
  · exact same 0 _ silent alike holds holds' 40

end BookingRetry.Run
