import BookingRetry.Proofs.Run.Course
import BookingRetry.Proofs.Text.Basic
import BookingRetry.Proofs.Text.Numeral

/-!
The failures that a run counts. Attempts and failures are kept apart, and a failure is counted only
after its record has been written; still, whenever a run goes on, its count of each kind is the
number of attempts that have failed with it.
-/
namespace BookingRetry

theorem MarkerSet.verdict_not_input {m : MarkerSet} {answer : Answer} {kind : FailureKind}
    {message : Text} (again : m.verdict answer = .retryable kind message) : kind ≠ .input := by
  cases answer with
  | reserved detail => simp [verdict, verdictIn] at again
  | failed text =>
    cases same : m.kindIn .unicode text <;> simp [verdict, verdictIn, same] at again <;>
      simp [← again.1]

theorem FailureKind.name_injective {a b : FailureKind} (same : a.name = b.name) : a = b := by
  revert same
  cases a <;> cases b <;> decide

def failureKinds : List FailureKind := [.unavailable, .transient, .input]

def failureCount (kind : FailureKind) (attempts : List Attempt) : Nat :=
  (attempts.filter fun a => a.result = .retryable kind).length

theorem failureCount_concat (kind : FailureKind) (attempts : List Attempt) (a : Attempt) :
    failureCount kind (attempts ++ [a]) =
      failureCount kind attempts + if a.result = .retryable kind then 1 else 0 := by
  unfold failureCount
  rw [List.filter_append, List.length_append]
  by_cases same : a.result = .retryable kind <;> simp [same]

namespace Tally

def ofCounts (count : FailureKind → Nat) : Tally :=
  (failureKinds.filter fun k => count k ≠ 0).map fun k => (k, count k)

def ofAttempts (attempts : List Attempt) : Tally := ofCounts fun k => failureCount k attempts

theorem add_ofCounts (kind : FailureKind) (count : FailureKind → Nat) :
    add kind (ofCounts count) = ofCounts fun k => count k + if kind = k then 1 else 0 := by
  by_cases unavailable : count .unavailable = 0 <;> by_cases transient : count .transient = 0 <;>
    by_cases input : count .input = 0 <;> cases kind <;>
    simp [ofCounts, failureKinds, add, FailureKind.place, unavailable, transient, input]

theorem add_ofAttempts {attempts : List Attempt} {a : Attempt} {kind : FailureKind}
    (again : a.result = .retryable kind) :
    add kind (ofAttempts attempts) = ofAttempts (attempts ++ [a]) := by
  unfold ofAttempts
  rw [add_ofCounts]
  congr 1
  funext k
  rw [failureCount_concat, again]
  simp

end Tally

namespace Run

/-- All attempts have failed, and none of them for bad input. -/
def AllRepeatable (attempts : List Attempt) : Prop :=
  ∀ a ∈ attempts, ∃ kind, kind ≠ .input ∧ a.result = .retryable kind

/-- The last part of a summary says how the attempts so far have failed. -/
structure TellsFailures (attempts : List Attempt) (note : Text) : Prop where
  alike_iff : ∀ kind, note = lit "all attempts failed with " ++ kind.name ↔
    ∀ a ∈ attempts, a.result = .retryable kind
  mixed : (∀ kind, ∃ a ∈ attempts, a.result ≠ .retryable kind) →
    note = lit "failures: unavailable=" ++
      Numeral.written (failureCount .unavailable attempts) ++ lit ", transient=" ++
      Numeral.written (failureCount .transient attempts)
  counts_eq : failureCount .unavailable attempts + failureCount .transient attempts =
    attempts.length
  no_input : ¬ lit "input" <:+: note

variable {attempts : List Attempt} {kind : FailureKind}

/-! ### Counting -/

theorem failureCount_input (repeatable : AllRepeatable attempts) :
    failureCount .input attempts = 0 := by
  unfold failureCount
  rw [List.length_eq_zero_iff, List.filter_eq_nil_iff]
  intro a member same
  obtain ⟨kind, other, result⟩ := repeatable a member
  rw [decide_eq_true_eq, result] at same
  cases same
  contradiction

theorem failureCounts_sum (repeatable : AllRepeatable attempts) :
    failureCount .unavailable attempts + failureCount .transient attempts = attempts.length := by
  induction attempts with
  | nil => rfl
  | cons a rest ih =>
    have more := ih fun b member => repeatable b (List.mem_cons_of_mem a member)
    obtain ⟨kind, other, result⟩ := repeatable a List.mem_cons_self
    unfold failureCount at more ⊢
    cases kind with
    | input => contradiction
    | unavailable | transient =>
      simp [result]
      omega

theorem failureCount_alike (alike : ∀ a ∈ attempts, a.result = .retryable kind) :
    failureCount kind attempts = attempts.length := by
  unfold failureCount
  rw [List.filter_eq_self.mpr fun a member => decide_eq_true (alike a member)]

theorem failureCount_eq_length_iff :
    failureCount kind attempts = attempts.length ↔
      ∀ a ∈ attempts, a.result = .retryable kind := by
  constructor
  · intro all a member
    have whole := List.length_filter_eq_length_iff.mp all a member
    exact of_decide_eq_true whole
  · exact failureCount_alike

/-! ### The note -/

theorem tallyNote_alike (made : attempts ≠ []) (repeatable : AllRepeatable attempts)
    (alike : ∀ a ∈ attempts, a.result = .retryable kind) :
    tallyNote (.ofAttempts attempts) = lit "all attempts failed with " ++ kind.name := by
  have positive : 0 < attempts.length := List.length_pos_iff.mpr made
  have all := failureCount_alike alike
  have input := failureCount_input repeatable
  have sum := failureCounts_sum repeatable
  have only : (failureKinds.filter fun k => failureCount k attempts ≠ 0) = [kind] := by
    cases kind with
    | unavailable =>
      have none : failureCount .transient attempts = 0 := by omega
      simp [failureKinds, input, none, all, made]
    | transient =>
      have none : failureCount .unavailable attempts = 0 := by omega
      simp [failureKinds, input, none, all, made]
    | input => omega
  have failures : Tally.ofAttempts attempts = [(kind, failureCount kind attempts)] := by
    unfold Tally.ofAttempts Tally.ofCounts
    rw [only]
    rfl
  rw [failures]
  rfl

theorem failureCounts_mixed (repeatable : AllRepeatable attempts)
    (mixed : ∀ kind, ∃ a ∈ attempts, a.result ≠ .retryable kind) :
    failureCount .unavailable attempts ≠ 0 ∧ failureCount .transient attempts ≠ 0 := by
  have sum := failureCounts_sum repeatable
  have short (kind : FailureKind) : failureCount kind attempts ≠ attempts.length := by
    intro whole
    obtain ⟨a, member, other⟩ := mixed kind
    exact other (failureCount_eq_length_iff.mp whole a member)
  have unavailable := short .unavailable
  have transient := short .transient
  omega

theorem tallyNote_mixed (repeatable : AllRepeatable attempts)
    (mixed : ∀ kind, ∃ a ∈ attempts, a.result ≠ .retryable kind) :
    tallyNote (.ofAttempts attempts) = lit "failures: unavailable=" ++
      Numeral.written (failureCount .unavailable attempts) ++ lit ", transient=" ++
      Numeral.written (failureCount .transient attempts) := by
  have input := failureCount_input repeatable
  obtain ⟨first, second⟩ := failureCounts_mixed repeatable mixed
  have both : (failureKinds.filter fun k => failureCount k attempts ≠ 0) =
      [.unavailable, .transient] := by
    simp [failureKinds, input, first, second]
  have failures : Tally.ofAttempts attempts =
      [(.unavailable, failureCount .unavailable attempts),
       (.transient, failureCount .transient attempts)] := by
    unfold Tally.ofAttempts Tally.ofCounts
    rw [both]
    rfl
  have opening : lit "failures: unavailable=" = lit "failures: " ++ (lit "unavailable" ++ ['=']) :=
    rfl
  have between : lit ", transient=" = lit ", " ++ (lit "transient" ++ ['=']) := rfl
  rw [failures, opening, between]
  simp [tallyNote, Text.joined, FailureKind.name]

theorem alike_or_mixed (attempts : List Attempt) :
    (∃ kind, ∀ a ∈ attempts, a.result = .retryable kind) ∨
      ∀ kind, ∃ a ∈ attempts, a.result ≠ .retryable kind := by
  by_cases alike : ∃ kind, ∀ a ∈ attempts, a.result = .retryable kind
  · exact Or.inl alike
  · refine Or.inr fun kind => ?_
    by_contra none
    refine alike ⟨kind, fun a member => ?_⟩
    by_contra other
    exact none ⟨a, member, other⟩

theorem tallyNote_tells (made : attempts ≠ []) (repeatable : AllRepeatable attempts) :
    TellsFailures attempts (tallyNote (.ofAttempts attempts)) where
  alike_iff := by
    intro kind
    constructor
    · intro note
      rcases alike_or_mixed attempts with ⟨other, alike⟩ | mixed
      · rw [tallyNote_alike made repeatable alike] at note
        have names : other.name = kind.name := List.append_cancel_left note
        exact FailureKind.name_injective names ▸ alike
      · rw [tallyNote_mixed repeatable mixed] at note
        have first : some 'f' = some 'a' := congrArg List.head? note
        exact absurd first (by decide)
    · exact tallyNote_alike made repeatable
  mixed := tallyNote_mixed repeatable
  counts_eq := failureCounts_sum repeatable
  no_input := by
    rcases alike_or_mixed attempts with ⟨kind, alike⟩ | mixed
    · rw [tallyNote_alike made repeatable alike]
      cases kind with
      | unavailable | transient =>
        rw [← Text.hasPart_iff]
        decide
      | input =>
        obtain ⟨a, rest, rfl⟩ := List.exists_cons_of_ne_nil made
        obtain ⟨kind, other, result⟩ := repeatable a List.mem_cons_self
        rw [alike a List.mem_cons_self] at result
        cases result
        contradiction
    · rw [tallyNote_mixed repeatable mixed]
      intro part
      have letter := part.subset (show 'p' ∈ lit "input" by decide)
      have words : 'p' ∉ lit "failures: unavailable=" ∧ 'p' ∉ lit ", transient=" := by decide
      have digits (n : Nat) : 'p' ∉ Numeral.written n := Numeral.not_mem_written rfl n
      simp [words, digits] at letter

/-! ### What a run keeps -/

/-- What is counted is what has been attempted, and nothing of it was bad input. -/
structure FailuresCounted (p : Progress) : Prop where
  failures_eq : p.failures = .ofAttempts p.attempts
  repeatable : AllRepeatable p.attempts

def Tallied (st : State) : Prop := ∀ stage p, st.phase = .going stage p → FailuresCounted p

variable {plan : Plan} {w : World} {before s s' : Scene} {stage : Stage} {p p' : Progress}

theorem FailuresCounted.onward (h : FailuresCounted p) (failures : p'.failures = p.failures)
    (same : p'.attempts = p.attempts) : Tallied ⟨s', .going stage p'⟩ := by
  intro _ _ here
  cases here
  exact ⟨by rw [failures, same, h.failures_eq], by rw [same]; exact h.repeatable⟩

theorem FailuresCounted.failed (h : FailuresCounted p) {a : Attempt} (other : kind ≠ .input)
    (again : a.result = .retryable kind) : FailuresCounted ((p.kept a).failed kind) where
  failures_eq := by
    show p.failures.add kind = Tally.ofAttempts (p.attempts ++ [a])
    rw [h.failures_eq, Tally.add_ofAttempts again]
  repeatable := by
    intro b member
    rcases List.mem_append.mp member with old | new
    · exact h.repeatable b old
    · rw [List.mem_singleton.mp new]
      exact ⟨kind, other, again⟩

theorem noting_tallied {level : Log.Level} {message : Text} {next : Phase}
    (h : Tallied ⟨s, next⟩) : Tallied (noting w level message next s) := by
  rcases noting_cases w level message next s with ⟨_, eq⟩ | ⟨f, _, eq⟩ <;> rw [eq]
  · exact h
  · nofun

theorem FailuresCounted.pausing {d : Span} (h : FailuresCounted p) : Tallied (pausing d p s) := by
  unfold Run.pausing
  split
  · nofun
  · split
    · exact h.onward rfl rfl
    · exact h.onward rfl rfl

theorem tallied_start (plan : Plan) (w : World) (before : Scene) :
    Tallied (plan.start w before) := by
  rcases start_cases plan w before with ⟨_, eq⟩ | ⟨rotation, _, ⟨_, eq⟩ | ⟨f, _, eq⟩⟩ <;> rw [eq]
  · exact noting_tallied nofun
  · intro stage p here
    cases here
    exact ⟨rfl, nofun⟩
  · nofun

theorem tallied_move {st st' : State} (move : Move plan w st st') (h : Tallied st) :
    Tallied st' := by
  cases move with
  | spent | exhausted | late => exact noting_tallied nofun
  | interrupted | roused => nofun
  | wrapped | tallied => exact noting_tallied ((h _ _ rfl).onward rfl rfl)
  | held | waits => exact (h _ _ rfl).pausing
  | @announced s p live =>
    rcases announce_cases w p s with ⟨_, eq⟩ | ⟨f, _, eq⟩ <;> rw [eq]
    · exact (h _ _ rfl).onward rfl rfl
    · nofun
  | @answered s p startedAt reply verdict heard replied judged passed =>
    refine noting_tallied ?_
    cases verdict with
    | success | fatal => nofun
    | retryable kind message =>
      have counted := (h _ _ rfl).failed
        (a := p.attempt startedAt heard.now (.retryable kind message))
        (MarkerSet.verdict_not_input judged.symm) rfl
      exact counted.onward rfl rfl
  | @closed s o attempts wraps startedAt =>
    rcases close_cases w o attempts wraps startedAt s with ⟨_, eq⟩ | ⟨f, _, eq⟩ <;>
      rw [eq] <;> nofun
  | rests | stuck => nofun
  | _ => exact (h _ _ rfl).onward rfl rfl

theorem tallied_alarmed (st : State) (cancels : Bool) (h : Tallied st) :
    Tallied (st.alarmed cancels) := h

theorem alarmedRun_tallied (alarms : Nat → Bool) (n : Nat) :
    Tallied (plan.alarmedRun w alarms n before) :=
  Plan.alarmedRun_keeps (tallied_start plan w before) tallied_alarmed (fun _ _ => tallied_move) n

theorem run_tallied (n : Nat) : Tallied (plan.run w n before) :=
  Plan.run_keeps (tallied_start plan w before) (fun _ _ => tallied_move) n

end Run

end BookingRetry
