import BookingRetry.Proofs.Run.LogFaults

/-!
Where a run writes its summaries: each one right behind the result of an attempt that it is due
after, and none anywhere else. What is due is decided by the number of attempts, what is told by
their results, and both are kept apart from the log; so the log is read here as the story of the
attempts, one result after another.
-/
namespace BookingRetry

/-- Of all informations only a summary opens like this. -/
def Log.Record.summarises (r : Log.Record) : Bool :=
  r.level = .info && (lit "summary: ").isPrefixOf r.message

def Log.Record.concludes (r : Log.Record) : Bool :=
  r.level ≠ .info && (lit "[attempt").isPrefixOf r.message

namespace Run

/-- A record sums up the attempts so far. -/
structure Summarises (attempts : List Attempt) (r : Log.Record) : Prop where
  level_eq : r.level = .info
  message_eq : ∃ (elapsed : Span) (remaining note : Text),
    r.message = lit "summary: " ++ Numeral.written attempts.length ++ lit " attempts, elapsed " ++
      minutesMessage elapsed ++ lit ", remaining " ++ remaining ++ lit ", " ++ note ∧
    TellsFailures attempts note

def Concludes (a : Attempt) (r : Log.Record) : Prop :=
  ∃ verdict : Verdict, verdict.result = a.result ∧
    r.level = (resultNote a.number a.label verdict).level ∧
    r.message = Text.folded (resultNote a.number a.label verdict).message

def Plan.DueAfter (plan : Plan) (a : Attempt) : Prop :=
  (∃ kind, a.result = .retryable kind) ∧ plan.Sums a.number

/-- The records that go with some attempts: behind the result of an attempt comes at once a summary
of all attempts so far, if one is due, and nowhere else is there one. -/
inductive Summed (plan : Plan) : List Attempt → List Log.Record → Prop where
  | nothing : Summed plan [] []
  | beside {attempts records r} (before : Summed plan attempts records)
      (unsummed : r.summarises = false) (other : r.concludes = false) :
      Summed plan attempts (records ++ [r])
  | between {attempts records a r} (before : Summed plan attempts records)
      (number : a.number = attempts.length + 1) (told : Concludes a r)
      (undue : ¬ plan.DueAfter a) : Summed plan (attempts ++ [a]) (records ++ [r])
  | due {attempts records a r summary} (before : Summed plan attempts records)
      (number : a.number = attempts.length + 1) (told : Concludes a r) (due : plan.DueAfter a)
      (summed : Summarises (attempts ++ [a]) summary) :
      Summed plan (attempts ++ [a]) (records ++ [r, summary])

/-- The last attempt has failed and may be made again. Its result is the last record, and has no
summary yet. -/
inductive Unsummed (plan : Plan) : List Attempt → List Log.Record → Prop where
  | failed {attempts records a r kind} (before : Summed plan attempts records)
      (number : a.number = attempts.length + 1) (told : Concludes a r)
      (again : a.result = .retryable kind) : Unsummed plan (attempts ++ [a]) (records ++ [r])

def Stage.SummariesWritten (plan : Plan) (attempts : List Attempt) (records : List Log.Record) :
    Stage → Prop
  | .tallying => Unsummed plan attempts records
  | _ => Summed plan attempts records

structure Scene.LogUpTo (plan : Plan) (w : World) (before s : Scene) (records : List Log.Record)
    (part : Bytes) : Prop where
  bytes_eq : s.bytes = before.bytes ++
    (Log.encodeLines (before.preface plan w ++ records.map Log.Record.written) ++ part)
  open_ended : Follow.lineFeed ∉ part

def Scene.HeaderCut (plan : Plan) (w : World) (before s : Scene) : Prop :=
  ∃ front part, front <+: before.preface plan w ∧ Follow.lineFeed ∉ part ∧
    s.bytes = before.bytes ++ (Log.encodeLines front ++ part)

structure SumsSoFar (plan : Plan) (w : World) (before s : Scene) (stage : Stage) (p : Progress) :
    Prop where
  opened : s.journal.isOpen = true
  log : ∃ records, before.LogFull plan w s records ∧ stage.SummariesWritten plan p.attempts records

/-- The summaries in the log of a run. Only a run that has failed may be short of one, and of no
other than the last. -/
def SumsUp (plan : Plan) (w : World) (before : Scene) (st : State) : Prop :=
  match st.phase with
  | .going stage p => SumsSoFar plan w before st.scene stage p
  | .closing _ attempts _ _ => st.scene.journal.isOpen = true ∧
      ∃ records, before.LogFull plan w st.scene records ∧ Summed plan attempts records
  | .finished r => ∃ records part, before.LogUpTo plan w st.scene records part ∧
      Summed plan r.attempts records
  | .failed _ => before.HeaderCut plan w st.scene ∨
      ∃ attempts records part, before.LogUpTo plan w st.scene records part ∧
        (Summed plan attempts records ∨ Unsummed plan attempts records)

variable {plan : Plan} {w : World} {before s s' : Scene} {stage : Stage} {p : Progress}
variable {records : List Log.Record} {attempts : List Attempt} {level : Log.Level} {message : Text}
variable {stamp : Stamp}

/-! ### The record of a summary -/

theorem not_mem_minutesMessage {c : Char} (other : Numeral.isDigit c = false)
    (words : c ∉ lit ". min") (d : Span) : c ∉ minutesMessage d := by
  intro member
  rcases List.mem_append.mp member with figure | word
  · rcases List.mem_append.mp figure with whole | tenth
    · exact Numeral.not_mem_written other _ whole
    · rcases List.mem_cons.mp tenth with point | tenth
      · exact words (point ▸ List.mem_cons_self)
      · exact Numeral.not_mem_written other _ tenth
  · exact words (List.mem_cons_of_mem '.' word)

section Unbroken

variable {c : Char} (ends : c = '\n' ∨ c = '\r')
include ends

theorem not_digit_of_ends : Numeral.isDigit c = false := by
  rcases ends with rfl | rfl <;> decide

theorem tallyNote_unbroken (made : attempts ≠ []) (repeatable : AllRepeatable attempts) :
    c ∉ tallyNote (.ofAttempts attempts) := by
  have words : ∀ part ∈ [lit "all attempts failed with ", lit "failures: unavailable=",
      lit ", transient="], c ∉ part := by
    rcases ends with rfl | rfl <;> decide
  simp only [List.forall_mem_cons] at words
  obtain ⟨alike, first, second, _⟩ := words
  have name (kind : FailureKind) : c ∉ kind.name := by
    rcases ends with rfl | rfl <;> cases kind <;> decide
  have digits (n : Nat) : c ∉ Numeral.written n :=
    Numeral.not_mem_written (not_digit_of_ends ends) n
  rcases alike_or_mixed attempts with ⟨kind, same⟩ | mixed
  · rw [tallyNote_alike made repeatable same, List.mem_append, not_or]
    exact ⟨alike, name kind⟩
  · rw [tallyNote_mixed repeatable mixed]
    simp only [List.mem_append, not_or]
    exact ⟨⟨⟨first, digits _⟩, second⟩, digits _⟩

theorem summaryMessage_unbroken (counted : FailuresCounted p) (made : p.attempts ≠ [])
    (elapsed : Span) (remaining : Option Span) :
    c ∉ summaryMessage p.count p.failures elapsed remaining := by
  have words : ∀ part ∈ [lit "summary: ", lit " attempts, elapsed ", lit ", remaining ",
      lit "n/a", lit ", ", lit ". min"], c ∉ part := by
    rcases ends with rfl | rfl <;> decide
  simp only [List.forall_mem_cons] at words
  obtain ⟨opening, passed, left, nothing, comma, figure, _⟩ := words
  have number : c ∉ Numeral.written p.count :=
    Numeral.not_mem_written (not_digit_of_ends ends) _
  have minutes := not_mem_minutesMessage (not_digit_of_ends ends) figure
  have note := tallyNote_unbroken ends made counted.repeatable
  rw [counted.failures_eq]
  unfold summaryMessage
  simp only [List.mem_append, not_or]
  refine ⟨⟨⟨⟨⟨⟨⟨opening, number⟩, passed⟩, minutes elapsed⟩, left⟩, ?_⟩, comma⟩, note⟩
  cases remaining with
  | none => exact nothing
  | some d => exact minutes d

end Unbroken

theorem summary_summarises (counted : FailuresCounted p) (made : p.attempts ≠ []) (stamp : Stamp)
    (elapsed : Span) (remaining : Option Span) :
    Summarises p.attempts
      ⟨stamp, .info, Text.folded (summaryMessage p.count p.failures elapsed remaining)⟩ where
  level_eq := rfl
  message_eq := by
    have note := tallyNote_tells made counted.repeatable
    have whole := Text.folded_plain
      (summaryMessage_unbroken (Or.inl rfl) counted made elapsed remaining)
      (summaryMessage_unbroken (Or.inr rfl) counted made elapsed remaining)
    rw [counted.failures_eq] at whole ⊢
    cases remaining with
    | none => exact ⟨elapsed, lit "n/a", _, whole, note⟩
    | some d => exact ⟨elapsed, minutesMessage d, _, whole, note⟩

theorem Summarises.summarises {r : Log.Record} (h : Summarises attempts r) :
    r.summarises = true := by
  obtain ⟨elapsed, remaining, note, message, _⟩ := h.message_eq
  simp only [List.append_assoc] at message
  have opens : (lit "summary: ").isPrefixOf r.message = true :=
    List.isPrefixOf_iff_prefix.mpr ⟨_, message.symm⟩
  simp [Log.Record.summarises, h.level_eq, opens]

/-! ### Records -/

theorem unsummed_of_level (other : level ≠ .info) :
    Log.Record.summarises ⟨stamp, level, message⟩ = false := by
  simp [Log.Record.summarises, other]

theorem not_concludes_info : Log.Record.concludes ⟨stamp, .info, message⟩ = false := by
  simp [Log.Record.concludes]

theorem unsummed_of_start {c : Char} (visible : Text.isBlankChar c = false) (differs : 's' ≠ c)
    (rest : Text) : Log.Record.summarises ⟨stamp, level, Text.folded (c :: rest)⟩ = false := by
  have other := isPrefixOf_folded visible differs (lit "ummary: ") rest
  have opens : lit "summary: " = 's' :: lit "ummary: " := rfl
  simp [Log.Record.summarises, opens, other]

theorem not_concludes_of_start {c : Char} (visible : Text.isBlankChar c = false) (differs : '[' ≠ c)
    (rest : Text) : Log.Record.concludes ⟨stamp, level, Text.folded (c :: rest)⟩ = false := by
  have other := isPrefixOf_folded visible differs (lit "attempt") rest
  have opens : lit "[attempt" = '[' :: lit "attempt" := rfl
  simp [Log.Record.concludes, opens, other]

theorem Scene.LogUpTo.of_full (h : before.LogFull plan w s records) :
    before.LogUpTo plan w s records [] where
  bytes_eq := by
    rw [List.append_nil]
    exact h
  open_ended := nofun

theorem Scene.LogUpTo.same {part : Bytes} (h : before.LogUpTo plan w s records part)
    (bytes : s'.bytes = s.bytes) : before.LogUpTo plan w s' records part where
  bytes_eq := by
    rw [bytes]
    exact h.bytes_eq
  open_ended := h.open_ended

theorem record_adds (opened : s.journal.isOpen = true) (h : before.LogFull plan w s records)
    (level : Log.Level) (message : Text) :
    let r : Log.Record := ⟨w.stamp s.stamps, level, Text.folded message⟩
    let written := s.record w level message
    (written.1 = .ok () ∧ written.2.journal.isOpen = true ∧
      before.LogFull plan w written.2 (records ++ [r])) ∨
    ∃ f part, written.1 = .error f ∧ before.LogUpTo plan w written.2 records part := by
  intro r written
  have unbroken := (Log.written_single (r := r) (Text.folded_single message)).unbroken
  rcases Log.Journal.write_torn opened unbroken with
    ⟨ok, still, bytes⟩ | ⟨f, part, error, torn, bytes⟩
  · exact Or.inl ⟨ok, still, h.concat bytes⟩
  · refine Or.inr ⟨f, part, error, ?_, torn⟩
    have longer : written.2.bytes = s.bytes ++ part := bytes
    rw [longer, h, List.append_assoc]

theorem noting_sums {next : Phase} (opened : s.journal.isOpen = true)
    (h : before.LogFull plan w s records)
    (tells : Summed plan attempts records ∨ Unsummed plan attempts records)
    (goes : ∀ s', s'.journal.isOpen = true →
      before.LogFull plan w s' (records ++ [⟨w.stamp s.stamps, level, Text.folded message⟩]) →
      SumsUp plan w before ⟨s', next⟩) :
    SumsUp plan w before (noting w level message next s) := by
  rcases record_adds opened h level message with ⟨ok, still, longer⟩ | ⟨f, part, error, upTo⟩
  · rw [noting_of_ok ok]
    exact goes _ still longer
  · rw [noting_of_error error]
    exact Or.inr ⟨attempts, records, part, upTo, tells⟩

/-! ### Every move -/

theorem Stage.summariesWritten_iff (other : stage ≠ .tallying) :
    stage.SummariesWritten plan attempts records ↔ Summed plan attempts records := by
  cases stage <;> first | exact Iff.rfl | exact absurd rfl other

theorem SumsSoFar.settled (h : SumsSoFar plan w before s stage p) (other : stage ≠ .tallying) :
    ∃ records, before.LogFull plan w s records ∧ Summed plan p.attempts records := by
  obtain ⟨records, full, tells⟩ := h.log
  exact ⟨records, full, (Stage.summariesWritten_iff other).mp tells⟩

theorem SumsSoFar.onward {next : Stage} {p' : Progress} (h : SumsSoFar plan w before s stage p)
    (same : s.LogKept s') (attempts : p'.attempts = p.attempts) (other : stage ≠ .tallying)
    (other' : next ≠ .tallying) : SumsSoFar plan w before s' next p' where
  opened := same.opened_eq.trans h.opened
  log := by
    obtain ⟨records, full, summed⟩ := h.settled other
    refine ⟨records, full.same same.bytes_eq, (Stage.summariesWritten_iff other').mpr ?_⟩
    rwa [attempts]

theorem SumsSoFar.pausing {d : Span} (h : SumsSoFar plan w before s stage p) (same : s.LogKept s')
    (live : s'.cancelled = false) (other : stage ≠ .tallying) :
    SumsUp plan w before (pausing d p s') := by
  rcases pausing_cases d p live with ⟨_, eq⟩ | ⟨_, eq⟩ <;> rw [eq]
  · exact h.onward same rfl other nofun
  · exact h.onward same rfl other nofun

theorem SumsSoFar.interrupted (h : SumsSoFar plan w before s stage p) (same : s.LogKept s')
    (other : stage ≠ .tallying) : SumsUp plan w before ⟨s', p.interrupted⟩ := by
  obtain ⟨records, full, summed⟩ := h.settled other
  exact ⟨same.opened_eq.trans h.opened, records, full.same same.bytes_eq, summed⟩

theorem SumsSoFar.ending {o : Outcome} {c : Char} {rest : Text}
    (h : SumsSoFar plan w before s stage p) (same : s.LogKept s') (other : stage ≠ .tallying)
    (visible : Text.isBlankChar c = false) (differs : '[' ≠ c) :
    SumsUp plan w before (noting w .error (c :: rest) (p.closing o) s') := by
  obtain ⟨records, full, summed⟩ := h.settled other
  refine noting_sums (same.opened_eq.trans h.opened) (full.same same.bytes_eq) (Or.inl summed) ?_
  intro last opened longer
  exact ⟨opened, _, longer, summed.beside (unsummed_of_level nofun)
    (not_concludes_of_start visible differs rest)⟩

theorem SumsSoFar.wrapped {c : Char} {rest : Text} (h : SumsSoFar plan w before s .probing p)
    (same : s.LogKept s') (visible : Text.isBlankChar c = false) (differs : 's' ≠ c) :
    SumsUp plan w before (noting w .info (c :: rest) (.going .starting p.moved) s') := by
  obtain ⟨records, full, summed⟩ := h.settled nofun
  refine noting_sums (same.opened_eq.trans h.opened) (full.same same.bytes_eq) (Or.inl summed) ?_
  intro last opened longer
  exact ⟨opened, _, longer,
    summed.beside (unsummed_of_start visible differs rest) not_concludes_info⟩

theorem SumsSoFar.announced (h : SumsSoFar plan w before s .starting p) :
    SumsUp plan w before (Plan.announce w p s) := by
  obtain ⟨records, full, summed⟩ := h.settled nofun
  rcases record_adds h.opened full .info (startMessage (p.count + 1) p.rotation.current.label
      (p.rotation.index + 1) p.rotation.size) with ⟨ok, still, longer⟩ | ⟨f, part, error, upTo⟩
  · rw [announce_of_ok ok]
    exact ⟨still, _, longer,
      summed.beside (unsummed_of_start rfl (by decide) _) not_concludes_info⟩
  · rw [announce_of_error error]
    exact Or.inr ⟨p.attempts, records, part, upTo, Or.inl summed⟩

theorem SumsSoFar.answered {startedAt finishedAt : Span} {answer : Answer} {verdict : Verdict}
    (h : SumsSoFar plan w before s (.calling startedAt) p) (same : s.LogKept s')
    (judged : verdict = plan.markers.verdict answer) :
    SumsUp plan w before
      (noting w (resultLevel verdict) (resultMessage (p.count + 1) p.rotation.current.label verdict)
        ((p.kept (p.attempt startedAt finishedAt verdict)).following (p.count + 1) verdict)
        s') := by
  obtain ⟨records, full, summed⟩ := h.settled nofun
  refine noting_sums (same.opened_eq.trans h.opened) (full.same same.bytes_eq) (Or.inl summed) ?_
  intro last opened longer
  let a := p.attempt startedAt finishedAt verdict
  have told : Concludes a
      ⟨w.stamp s'.stamps, resultLevel verdict,
        Text.folded (resultMessage (p.count + 1) p.rotation.current.label verdict)⟩ := by
    have note := @resultNote_judged plan.markers answer a.number a.label
    rw [← judged] at note
    exact ⟨verdict, rfl, by rw [note], by rw [note]; rfl⟩
  have number : a.number = p.attempts.length + 1 := rfl
  have result : a.result = verdict.result := rfl
  cases verdict with
  | success | fatal =>
    refine ⟨opened, _, longer, summed.between number told ?_⟩
    rintro ⟨⟨kind, again⟩, _⟩
    rw [result] at again
    contradiction
  | retryable => exact ⟨opened, _, longer, .failed summed number told result⟩

theorem Unsummed.cases (h : Unsummed plan p.attempts records) :
    (plan.Sums p.count ∧ ∀ {summary}, Summarises p.attempts summary →
      Summed plan p.attempts (records ++ [summary])) ∨
    (¬ plan.Sums p.count ∧ Summed plan p.attempts records) := by
  unfold Progress.count
  generalize p.attempts = attempts at h
  cases h with
  | @failed earlier front a r kind before number told again =>
    have count : (earlier ++ [a]).length = a.number := by
      rw [number, List.length_append]
      rfl
    rw [count]
    by_cases sums : plan.Sums a.number
    · refine Or.inl ⟨sums, fun summed => ?_⟩
      rw [List.append_assoc]
      exact before.due number told ⟨⟨kind, again⟩, sums⟩ summed
    · exact Or.inr ⟨sums, before.between number told fun due => sums due.2⟩

theorem Unsummed.made (h : Unsummed plan attempts records) : attempts ≠ [] := by
  cases h with
  | failed => simp

theorem SumsSoFar.untallied (h : SumsSoFar plan w before s .tallying p)
    (undue : ¬ plan.Sums p.count) : SumsSoFar plan w before s .settling p.due where
  opened := h.opened
  log := by
    obtain ⟨records, full, unsummed⟩ := h.log
    rcases Unsummed.cases unsummed with ⟨sums, _⟩ | ⟨_, summed⟩
    · contradiction
    · exact ⟨records, full, summed⟩

theorem SumsSoFar.tallied (h : SumsSoFar plan w before s .tallying p) (counted : FailuresCounted p)
    (sums : plan.Sums p.count) (elapsed : Span) (remaining : Option Span) :
    SumsUp plan w before
      (noting w .info (summaryMessage p.count p.failures elapsed remaining)
        (.going .settling p.due) (s.read w)) := by
  obtain ⟨records, full, unsummed⟩ := h.log
  refine noting_sums h.opened (full.same rfl) (Or.inr unsummed) ?_
  intro last opened longer
  rcases Unsummed.cases unsummed with ⟨_, summed⟩ | ⟨undue, _⟩
  · exact ⟨opened, _, longer,
      summed (summary_summarises counted (Unsummed.made unsummed) _ elapsed remaining)⟩
  · contradiction

/-! ### The end and the start -/

theorem marker_beside (summed : Summed plan attempts records) (o : Outcome) (stamp : Stamp) :
    Summed plan attempts (records ++ [⟨stamp, o.level, Text.folded o.marker⟩]) := by
  have opens : ∃ rest, o.marker = '=' :: rest := ⟨_, rfl⟩
  obtain ⟨rest, marker⟩ := opens
  refine summed.beside (unsummed_of_level o.level_not_info) ?_
  rw [marker]
  exact not_concludes_of_start rfl (by decide) rest

theorem marker_sums (opened : s.journal.isOpen = true) (full : before.LogFull plan w s records)
    (summed : Summed plan attempts records) (o : Outcome) :
    ∃ records' part, before.LogUpTo plan w (s.record w o.level o.marker).2 records' part ∧
      Summed plan attempts records' := by
  rcases record_adds opened full o.level o.marker with ⟨_, _, longer⟩ | ⟨f, part, _, upTo⟩
  · exact ⟨_, [], .of_full longer, marker_beside summed o _⟩
  · exact ⟨records, part, upTo, summed⟩

theorem writeFinal_sums (opened : s.journal.isOpen = true) (full : before.LogFull plan w s records)
    (summed : Summed plan attempts records) (o : Outcome) :
    ∃ records' part, before.LogUpTo plan w (Plan.writeFinal w o s).2 records' part ∧
      Summed plan attempts records' := by
  unfold Plan.writeFinal
  cases o with
  | interrupted n =>
    have first := record_adds opened full .warn interruptedMessage
    dsimp only at first ⊢
    cases noted : s.record w .warn interruptedMessage with
    | mk result after =>
      rw [noted] at first
      rcases first with ⟨rfl, still, longer⟩ | ⟨f, part, rfl, upTo⟩
      · have opens : ∃ rest, interruptedMessage = 'i' :: rest := ⟨_, rfl⟩
        obtain ⟨rest, message⟩ := opens
        refine marker_sums still longer (summed.beside (unsummed_of_level nofun) ?_) _
        rw [message]
        exact not_concludes_of_start rfl (by decide) rest
      · exact ⟨records, part, upTo, summed⟩
  | success | timeout | fatalInput | exhausted => exact marker_sums opened full summed _

theorem close_sums {o : Outcome} {wraps : Nat} {startedAt : Span}
    (opened : s.journal.isOpen = true) (full : before.LogFull plan w s records)
    (summed : Summed plan attempts records) :
    SumsUp plan w before (Plan.close w o attempts wraps startedAt s) := by
  obtain ⟨records', part, upTo, still⟩ := writeFinal_sums opened full summed o
  have told := upTo.same (conclude_bytes o s)
  rcases close_cases w o attempts wraps startedAt s with ⟨_, eq⟩ | ⟨f, _, eq⟩ <;> rw [eq]
  · exact ⟨records', part, told.same rfl, still⟩
  · exact Or.inr ⟨attempts, records', part, told, Or.inl still⟩

theorem header_adds {rotation : Rotation Candidate}
    (found : Rotation.ofList? plan.candidates = some rotation)
    (opened : before.journal.isOpen = true) :
    let written := (before.read w).header w plan.header
    (written.1 = .ok () ∧ written.2.journal.isOpen = true ∧
      before.LogFull plan w written.2 []) ∨
    ∃ f, written.1 = .error f ∧ before.HeaderCut plan w written.2 := by
  intro written
  have preface : before.preface plan w = before.headerLines plan w := preface_of_some found
  rcases Log.Journal.rawAll_torn (j := (before.read w).journal) opened
      (plan.header.lines (w.stamp (before.read w).stamps)) with
    ⟨ok, still, bytes⟩ | ⟨f, front, part, error, fits, torn, bytes⟩
  · refine Or.inl ⟨ok, still, ?_⟩
    unfold Scene.LogFull
    rw [preface, List.map_nil, List.append_nil]
    exact bytes
  · exact Or.inr ⟨f, error, front, part, preface ▸ fits, torn, bytes⟩

theorem start_sums (opened : before.journal.isOpen = true) :
    SumsUp plan w before (plan.start w before) := by
  rcases start_cases plan w before with ⟨nobody, eq⟩ | ⟨rotation, found, started⟩
  · rw [eq]
    have opens : ∃ rest, preflightMessage noCandidates = 'p' :: rest := ⟨_, rfl⟩
    obtain ⟨rest, message⟩ := opens
    refine noting_sums (s := before.read w) opened (logFull_nobody nobody) (Or.inl .nothing) ?_
    intro s' still longer
    refine ⟨still, _, longer, Summed.nothing.beside (unsummed_of_level nofun) ?_⟩
    rw [message]
    exact not_concludes_of_start rfl (by decide) rest
  · rcases header_adds (w := w) found opened with ⟨ok, still, full⟩ | ⟨f, error, cut⟩
    · rcases started with ⟨_, eq⟩ | ⟨f, error, _⟩
      · rw [eq]
        exact ⟨still, [], full, .nothing⟩
      · rw [ok] at error
        contradiction
    · rcases started with ⟨ok, _⟩ | ⟨_, _, eq⟩
      · rw [ok] at error
        contradiction
      · rw [eq]
        exact Or.inl cut

theorem sums_alarmed (st : State) (cancels : Bool) (h : SumsUp plan w before st) :
    SumsUp plan w before (st.alarmed cancels) := by
  obtain ⟨s, phase⟩ := st
  cases phase with
  | going stage p =>
    obtain ⟨opened, records, full, tells⟩ := h
    exact ⟨opened, records, full.same rfl, tells⟩
  | closing o attempts wraps startedAt =>
    obtain ⟨opened, records, full, summed⟩ := h
    exact ⟨opened, records, full.same rfl, summed⟩
  | finished r =>
    obtain ⟨records, part, upTo, summed⟩ := h
    exact ⟨records, part, upTo.same rfl, summed⟩
  | failed f =>
    rcases h with cut | ⟨attempts, records, part, upTo, tells⟩
    · exact Or.inl cut
    · exact Or.inr ⟨attempts, records, part, upTo.same rfl, tells⟩

theorem sums_move {st st' : State} (move : Move plan w st st') (counted : Tallied st)
    (h : SumsUp plan w before st) : SumsUp plan w before st' := by
  cases move with
  | unlimited | passGoesOn | wokenUnlimited => exact h.onward ⟨rfl, rfl, rfl⟩ rfl nofun nofun
  | inBudget | cleared | movedOn | wokenInTime => exact h.onward read_kept rfl nofun nofun
  | interrupted cancelled watched =>
    refine h.interrupted ⟨rfl, rfl, rfl⟩ ?_
    rcases watched with rfl | rfl | rfl <;> nofun
  | spent => exact h.ending read_kept nofun rfl (by decide)
  | exhausted => exact h.ending ⟨rfl, rfl, rfl⟩ nofun rfl (by decide)
  | late bounded late checked =>
    refine h.ending read_kept ?_ rfl (by decide)
    rcases checked with ⟨rfl, _⟩ | rfl <;> nofun
  | wrapped => exact h.wrapped read_kept rfl (by decide)
  | held live => exact h.pausing read_kept live nofun
  | waits live => exact h.pausing read_kept live nofun
  | announced => exact h.announced
  | answered replied judged passed =>
    subst passed
    exact h.answered (heard_kept _ _) judged
  | untallied undue => exact h.untallied undue
  | tallied sums => exact h.tallied (counted _ _ rfl) sums _ _
  | roused => exact h.interrupted (rested_kept _ _) nofun
  | slept => exact h.onward (rested_kept _ _) rfl nofun nofun
  | closed =>
    obtain ⟨opened, records, full, summed⟩ := h
    exact close_sums opened full summed
  | rests | stuck => exact h

theorem run_sums (opened : before.journal.isOpen = true) (alarms : Nat → Bool) (n : Nat) :
    SumsUp plan w before (plan.alarmedRun w alarms n before) := by
  induction n with
  | zero => exact start_sums opened
  | succ n ih =>
    have counted : Tallied ((plan.alarmedRun w alarms n before).alarmed (alarms n)) :=
      tallied_alarmed _ _ (alarmedRun_tallied alarms n)
    exact sums_move (step_moves plan w _) counted (sums_alarmed _ _ ih)

/-! ### What the places of the summaries come to -/

theorem Concludes.concludes {a : Attempt} {r : Log.Record} (h : Concludes a r) :
    r.concludes = true ∧ r.summarises = false := by
  obtain ⟨verdict, _, level, message⟩ := h
  let note := resultNote a.number a.label verdict
  have tagged : note.message = lit "[attempt" ++ note.message.drop 8 := by
    cases verdict with
    | success | fatal => rfl
    | retryable kind => cases kind <;> rfl
  have opens := isPrefixOf_folded_tagged tagged
  rw [← message] at opens
  have other : r.level ≠ .info := by
    rw [level]
    cases verdict with
    | success | fatal => nofun
    | retryable kind => cases kind <;> nofun
  exact ⟨by simp [Log.Record.concludes, other, opens], by simp [Log.Record.summarises, other]⟩

instance (plan : Plan) (a : Attempt) : Decidable (plan.DueAfter a) :=
  match same : a.result with
  | .retryable kind =>
    decidable_of_iff (plan.Sums a.number) (by simp [Plan.DueAfter, same])
  | .success => isFalse (by simp [Plan.DueAfter, same])
  | .fatal kind => isFalse (by simp [Plan.DueAfter, same])

/-- The attempts that a summary follows have one each, in their order, and it counts them all up to
its own. -/
theorem Summed.each (h : Summed plan attempts records) (later : List Attempt) :
    List.Forall₂ (fun a r => Summarises ((attempts ++ later).take a.number) r)
      (attempts.filter fun a => plan.DueAfter a) (records.filter Log.Record.summarises) := by
  induction h generalizing later with
  | nothing => exact .nil
  | beside before unsummed other ih => simpa [List.filter_append, unsummed] using ih later
  | @between attempts records a r before number told undue ih =>
    have more := ih (a :: later)
    simpa [List.filter_append, undue, told.concludes] using more
  | @due attempts records a r summary before number told due summed ih =>
    have more := ih (a :: later)
    have front : (attempts ++ a :: later).take a.number = attempts ++ [a] := by
      rw [number, List.append_cons]
      exact List.take_left' (by simp)
    have last : List.Forall₂ (fun a' r => Summarises ((attempts ++ a :: later).take a'.number) r)
        [a] [summary] := .cons (by rwa [front]) .nil
    simpa [List.filter_append, due, told.concludes, summed.summarises] using
      List.rel_append more last

theorem Summed.never (h : Summed plan attempts records) (never : plan.settings.summaryEvery = 0)
    {r : Log.Record} (member : r ∈ records) : r.summarises = false := by
  have undue : (attempts.filter fun a => plan.DueAfter a) = [] := by
    rw [List.filter_eq_nil_iff]
    intro a _ due
    exact absurd (of_decide_eq_true due).2.1 (by omega)
  have none := h.each []
  rw [undue, List.forall₂_nil_left_iff, List.filter_eq_nil_iff] at none
  exact Bool.eq_false_iff.mpr (none r member)

theorem Unsummed.never (h : Unsummed plan attempts records)
    (never : plan.settings.summaryEvery = 0) {r : Log.Record} (member : r ∈ records) :
    r.summarises = false := by
  cases h with
  | failed before number told again =>
    rcases List.mem_append.mp member with old | last
    · exact before.never never old
    · rw [List.mem_singleton.mp last]
      exact told.concludes.2

end Run

end BookingRetry
