import BookingRetry.Proofs.Run.Attempts

/-!
What the report of a finished run says, and that it is so: the outcome agrees with the attempts and
the calls, and the attempts go round the candidates in order.
-/
namespace BookingRetry.Run

def Scene.callsSince (s before : Scene) : List (Candidate × Nat) :=
  s.calls.drop before.calls.length

/-- The outcome of a report agrees with its attempts and with the calls made. -/
structure OutcomeAgrees (plan : Plan) (w : World) (before after : Scene) (r : RunReport) :
    Prop where
  attempts_eq : r.outcome.attempts = r.attempts.length
  calls_eq : (after.callsSince before).length = r.attempts.length
  retried : AllRetryable r.attempts.dropLast
  success_iff : (∃ n detail, r.outcome = .success n detail) ↔
    ∃ a, r.attempts.getLast? = some a ∧ a.result = .success
  success_detail : ∀ n detail, r.outcome = .success n detail →
    ∃ a c, r.attempts.getLast? = some a ∧ (after.callsSince before).getLast? = some (c, n) ∧
      Plan.answerAt w before (n - 1) c a.startedAt = .reserved detail
  fatal_iff : (∃ n reason, 0 < n ∧ r.outcome = .fatalInput n reason) ↔
    ∃ a, r.attempts.getLast? = some a ∧ a.result = .fatal .input
  fatal_reason : ∀ n reason, 0 < n → r.outcome = .fatalInput n reason →
    ∃ a c, r.attempts.getLast? = some a ∧ (after.callsSince before).getLast? = some (c, n) ∧
      Plan.answerAt w before (n - 1) c a.startedAt = .failed reason
  preflight_iff : (∃ reason, r.outcome = .fatalInput 0 reason) ↔ plan.candidates = []
  timeout_retries : ∀ n, r.outcome = .timeout n → plan.settings.retry = true
  exhausted_once : ∀ n, r.outcome = .exhausted n → plan.settings.retry = false ∧
    r.attempts.map Attempt.index = List.range plan.candidates.length ∧ AllRetryable r.attempts

/-- Attempts go round the candidates, each with a call of its own, and only passes that have been
begun are counted. -/
structure RoundRobin (plan : Plan) (before after : Scene) (r : RunReport) : Prop where
  calls_eq : (after.callsSince before).length = r.attempts.length
  turn : ∀ i a, r.attempts[i]? = some a →
    ∃ c, plan.candidates[i % plan.candidates.length]? = some c ∧
      (after.callsSince before)[i]? = some (c, i + 1) ∧
      a.number = i + 1 ∧ a.index = i % plan.candidates.length ∧ a.label = c.label
  wraps_eq : r.wraps = (r.attempts.length - 1) / plan.candidates.length

variable {plan : Plan} {w : World} {before : Scene} {limit : Nat} {r : RunReport}

def rehearsal : Plan where
  settings :=
    { retry := true, timeout := .ofSeconds 60, wait := .ofSeconds 2, minInterval := .ofSeconds 5
      summaryEvery := 2 }
  markers := { unavailable := [lit "sold out"], input := [lit "forbidden"] }
  candidates := [⟨lit "301", lit "SRT 301", []⟩, ⟨lit "303", lit "SRT 303", []⟩]

def rehearsalWorld : World where
  call := fun k _ _ =>
    { answer := if k < 2 then .failed (lit "Sold out") else .reserved (lit "PNR-7")
      latency := .ofSeconds 1 }
  sleep := fun _ _ d => { passed := d }

theorem settled_of_finished (finished : (plan.run w limit before).phase = .finished r) :
    Settled plan w before (plan.run w limit before).scene r.outcome r.attempts r.wraps := by
  have accounted := Plan.run_keeps (P := Accounted plan w before) (accounted_start plan w before)
    (fun _ _ => accounted_move) limit
  unfold Accounted at accounted
  rwa [finished] at accounted

theorem Account.callsSince_length {s : Scene} {attempts : List Attempt}
    (h : Account plan w before s.calls attempts) :
    (s.callsSince before).length = attempts.length := by
  rw [Scene.callsSince, List.length_drop, h.length_eq]
  omega

theorem Account.entry_of {s : Scene} {attempts : List Attempt}
    (h : Account plan w before s.calls attempts) {i : Nat} {a : Attempt}
    (found : attempts[i]? = some a) :
    ∃ c, (s.callsSince before)[i]? = some (c, i + 1) ∧ Entry plan w before i (c, i + 1) a := by
  have bound := (List.getElem?_eq_some_iff.mp found).1
  have inside : before.calls.length + i < s.calls.length := by rw [h.length_eq]; omega
  have called := List.getElem?_eq_getElem inside
  have entry := h.entry i _ a called found
  refine ⟨s.calls[before.calls.length + i].1, ?_, ?_⟩
  · rw [Scene.callsSince, List.getElem?_drop, called, ← entry.call_number]
  · rw [← entry.call_number]
    exact entry

theorem Account.last_call {s : Scene} {earlier : List Attempt} {a : Attempt} {c : Candidate}
    (h : Account plan w before s.calls (earlier ++ [a]))
    (turn : plan.turn? earlier.length = some c) :
    (s.callsSince before).getLast? = some (c, earlier.length + 1) := by
  have size := h.callsSince_length
  obtain ⟨c', called, entry⟩ := h.entry_of (i := earlier.length) (a := a) (by simp)
  have same : c' = c := Option.some.inj (entry.turn.symm.trans turn)
  rw [List.getLast?_eq_getElem?, size, ← same]
  simpa using called

theorem Justified.attempts_eq {o : Outcome} {attempts : List Attempt}
    (h : Justified plan w before o attempts) : o.attempts = attempts.length := by
  cases h <;> simp [Outcome.attempts]

theorem Justified.retried {o : Outcome} {attempts : List Attempt}
    (h : Justified plan w before o attempts) : AllRetryable attempts.dropLast := by
  cases h with
  | preflight nobody => exact nofun
  | success retried | fatal retried => rwa [List.dropLast_concat]
  | timeout _ retried | interrupted _ retried | exhausted _ retried =>
    exact fun a member => retried a (List.dropLast_subset _ member)

theorem AllRetryable.last {attempts : List Attempt} {a : Attempt} (h : AllRetryable attempts)
    (last : attempts.getLast? = some a) : ∃ kind, a.result = .retryable kind :=
  h a (List.mem_of_getLast? last)

/-- The last attempt decides between success, fatal input and all other outcomes. -/
theorem Justified.last_cases {o : Outcome} {attempts : List Attempt} {a : Attempt}
    (h : Justified plan w before o attempts) (last : attempts.getLast? = some a) :
    (a.result = .success ∧ ∃ n detail, o = .success n detail) ∨
    (a.result = .fatal .input ∧ ∃ n reason, 0 < n ∧ o = .fatalInput n reason) ∨
    ∃ kind, a.result = .retryable kind := by
  cases h with
  | preflight nobody => simp at last
  | success retried turn answered result =>
    rw [List.getLast?_concat, Option.some.injEq] at last
    exact Or.inl ⟨last ▸ result, _, _, rfl⟩
  | fatal retried turn answered result =>
    rw [List.getLast?_concat, Option.some.injEq] at last
    exact Or.inr (Or.inl ⟨last ▸ result, _, _, Nat.succ_pos _, rfl⟩)
  | timeout _ retried | interrupted _ retried | exhausted _ retried =>
    exact Or.inr (Or.inr (retried.last last))

theorem Settled.success_last {s : Scene} {attempts : List Attempt} {wraps n : Nat} {detail : Text}
    (h : Settled plan w before s (.success n detail) attempts wraps) :
    ∃ a c, attempts.getLast? = some a ∧ (s.callsSince before).getLast? = some (c, n) ∧
      Plan.answerAt w before (n - 1) c a.startedAt = .reserved detail ∧ a.result = .success := by
  obtain ⟨account, justified, _⟩ := h
  cases justified with
  | @success earlier a c _ retried turn answered result =>
    exact ⟨a, c, List.getLast?_concat, account.last_call turn, answered, result⟩

theorem Settled.fatal_last {s : Scene} {attempts : List Attempt} {wraps n : Nat} {reason : Text}
    (h : Settled plan w before s (.fatalInput n reason) attempts wraps) (some : 0 < n) :
    ∃ a c, attempts.getLast? = .some a ∧ (s.callsSince before).getLast? = .some (c, n) ∧
      Plan.answerAt w before (n - 1) c a.startedAt = .failed reason ∧
      a.result = .fatal .input := by
  obtain ⟨account, justified, _⟩ := h
  cases justified with
  | preflight nobody => contradiction
  | @fatal earlier a c _ retried turn answered result =>
    exact ⟨a, c, List.getLast?_concat, account.last_call turn, answered, result⟩

theorem Settled.success_iff {s : Scene} {o : Outcome} {attempts : List Attempt} {wraps : Nat}
    (h : Settled plan w before s o attempts wraps) :
    (∃ n detail, o = .success n detail) ↔
      ∃ a, attempts.getLast? = some a ∧ a.result = .success := by
  constructor
  · rintro ⟨n, detail, rfl⟩
    obtain ⟨a, c, last, _, _, result⟩ := h.success_last
    exact ⟨a, last, result⟩
  · rintro ⟨a, last, result⟩
    rcases h.justified.last_cases last with ⟨_, success⟩ | ⟨fatal, _⟩ | ⟨kind, again⟩
    · exact success
    · rw [result] at fatal
      contradiction
    · rw [result] at again
      contradiction

theorem Settled.fatal_iff {s : Scene} {o : Outcome} {attempts : List Attempt} {wraps : Nat}
    (h : Settled plan w before s o attempts wraps) :
    (∃ n reason, 0 < n ∧ o = .fatalInput n reason) ↔
      ∃ a, attempts.getLast? = some a ∧ a.result = .fatal .input := by
  constructor
  · rintro ⟨n, reason, some, rfl⟩
    obtain ⟨a, c, last, _, _, result⟩ := h.fatal_last some
    exact ⟨a, last, result⟩
  · rintro ⟨a, last, result⟩
    rcases h.justified.last_cases last with ⟨success, _⟩ | ⟨_, fatal⟩ | ⟨kind, again⟩
    · rw [result] at success
      contradiction
    · exact fatal
    · rw [result] at again
      contradiction

theorem Justified.preflight_iff {o : Outcome} {attempts : List Attempt}
    (h : Justified plan w before o attempts) :
    (∃ reason, o = .fatalInput 0 reason) ↔ plan.candidates = [] := by
  constructor
  · rintro ⟨reason, rfl⟩
    cases h with
    | preflight nobody => exact nobody
  · intro nobody
    cases h with
    | preflight _ => exact ⟨noCandidates, rfl⟩
    | success _ turn | fatal _ turn => simp [Plan.turn?, nobody] at turn
    | timeout somebody | interrupted somebody | exhausted somebody => exact absurd nobody somebody

theorem Account.indices {s : Scene} {attempts : List Attempt}
    (h : Account plan w before s.calls attempts)
    (all : attempts.length = plan.candidates.length) :
    attempts.map Attempt.index = List.range plan.candidates.length := by
  apply List.ext_getElem (by simp [all])
  intro i first second
  rw [List.getElem_map, List.getElem_range]
  rw [List.length_map] at first
  obtain ⟨c, _, entry⟩ := h.entry_of (List.getElem?_eq_getElem first)
  rw [entry.index_eq, Nat.mod_eq_of_lt (by omega)]

/-- A run that is finished, in either mode, under any vendor, clock and cancellation, has an outcome
that agrees with its attempts and its calls. -/
theorem finished_outcome_agrees (finished : (plan.run w limit before).phase = .finished r) :
    OutcomeAgrees plan w before (plan.run w limit before).scene r := by
  have settled := settled_of_finished finished
  have justified := settled.justified
  exact
    { attempts_eq := justified.attempts_eq
      calls_eq := settled.account.callsSince_length
      retried := justified.retried
      success_iff := settled.success_iff
      success_detail := by
        intro n detail same
        rw [same] at settled
        obtain ⟨a, c, last, called, answered, _⟩ := settled.success_last
        exact ⟨a, c, last, called, answered⟩
      fatal_iff := settled.fatal_iff
      fatal_reason := by
        intro n reason some same
        rw [same] at settled
        obtain ⟨a, c, last, called, answered, _⟩ := settled.fatal_last some
        exact ⟨a, c, last, called, answered⟩
      preflight_iff := justified.preflight_iff
      timeout_retries := by
        intro n same
        rw [same] at justified
        cases justified with
        | timeout _ _ retries => exact retries
      exhausted_once := by
        intro n same
        rw [same] at justified
        cases justified with
        | exhausted _ retried once all => exact ⟨once, settled.account.indices all, retried⟩ }

theorem rehearsal_outcome_agrees :
    ∃ r, (rehearsal.run rehearsalWorld 40 {}).phase = .finished r ∧
      OutcomeAgrees rehearsal rehearsalWorld {} (rehearsal.run rehearsalWorld 40 {}).scene r :=
  ⟨_, rfl, finished_outcome_agrees rfl⟩

/-- In a run that is finished, attempt and call `i`, counted from nought, are those of the candidate
at the remainder of `i` by the length of the list. -/
theorem finished_round_robin (finished : (plan.run w limit before).phase = .finished r) :
    RoundRobin plan before (plan.run w limit before).scene r := by
  have settled := settled_of_finished finished
  refine ⟨settled.account.callsSince_length, ?_, settled.wraps_eq⟩
  intro i a found
  obtain ⟨c, called, entry⟩ := settled.account.entry_of found
  exact ⟨c, entry.turn, called, entry.number_eq, entry.index_eq, entry.label_eq⟩

theorem rehearsal_round_robin :
    ∃ r, (rehearsal.run rehearsalWorld 40 {}).phase = .finished r ∧
      RoundRobin rehearsal {} (rehearsal.run rehearsalWorld 40 {}).scene r :=
  ⟨_, rfl, finished_round_robin rfl⟩

end BookingRetry.Run
