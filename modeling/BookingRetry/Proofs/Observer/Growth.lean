import BookingRetry.Proofs.Observer.Follow
import Mathlib.Data.List.Infix

/-!
Following a log that grows by additions, cut anywhere. After each poll the output has the longest
front of what can be seen that ends where a line ends, up to the first line that states the end of
the run; so it depends on what was added, and not on how it was cut.
-/
namespace BookingRetry.Follow

/-- What is added to a log before a poll, and whether the wait after that poll is cancelled. -/
structure Addition where
  bytes : Bytes
  cancelled : Bool := false

def moments (content : Bytes) : List Addition → List Moment
  | [] => []
  | a :: as =>
    let grown := content ++ a.bytes
    { content := .ok grown, cancelled := a.cancelled } :: moments grown as

def visible (place : Nat) (content : Bytes) (as : List Addition) (n : Nat) : Bytes :=
  (content ++ (as.take n).flatMap Addition.bytes).drop place

def Closed (bs : Bytes) : Prop := bs = [] ∨ bs.getLast? = some lineFeed

def EndsIn (s : FinalState) (bs : Bytes) : Prop :=
  ∃ front line, Closed front ∧ IsLine line ∧ bs = front ++ line ∧ stateOfLine? line = some s

/-- What is due on the output when some bytes can be seen, and the end that has come with it. -/
inductive Due (seen : Bytes) : Option FinalState → Bytes → Prop where
  | running {shown} (front : shown <+: seen) (closed : Closed shown)
      (longest : ∀ p, p <+: seen → Closed p → p <+: shown)
      (endless : ∀ p s, p <+: seen → ¬ EndsIn s p) : Due seen none shown
  | ended {shown s} (front : shown <+: seen) (ends : EndsIn s shown)
      (first : ∀ p s', p <+: seen → EndsIn s' p → shown <+: p) : Due seen (some s) shown

/-- When polls go on: after the first one, as long as no end has come and no wait is cancelled. -/
structure GoesOn (as : List Addition) (shown : List Bytes) (state : Option FinalState) : Prop where
  polled : as ≠ [] → 0 < shown.length
  bounded : shown.length ≤ as.length
  waited : ∀ n a, n + 1 < shown.length → as[n]? = some a → a.cancelled = false
  cancelled : ∀ n a, n + 1 = shown.length → n + 1 < as.length → state = none → as[n]? = some a →
    a.cancelled = true

/-- What polls show one after another, and the end that they come to, if they do. -/
structure ShowsGrowth (place : Nat) (content : Bytes) (as : List Addition) (shown : List Bytes)
    (state : Option FinalState) : Prop extends GoesOn as shown state where
  due : ∀ n < shown.length,
    Due (visible place content as (n + 1)) (if n + 1 = shown.length then state else none)
      (shown.take (n + 1)).flatten

/-! ### Fronts that end where a line ends -/

theorem closed_iff_finished (bs : Bytes) : Closed bs ↔ unfinished bs = [] :=
  (unfinished_eq_nil_iff bs).symm

theorem eq_flatten_of_closed {bs : Bytes} (closed : Closed bs) : bs = (wholeLines bs).flatten := by
  have whole := flatten_unfinished bs
  rw [(closed_iff_finished bs).mp closed, List.append_nil] at whole
  exact whole.symm

theorem closed_flatten {ls : List Bytes} (lines : ∀ l ∈ ls, IsLine l) : Closed ls.flatten := by
  rw [closed_iff_finished, unfinished, splitBytes_flatten lines]

theorem flatten_front (bs : Bytes) : (wholeLines bs).flatten <+: bs :=
  ⟨unfinished bs, flatten_unfinished bs⟩

theorem closed_front {bs p : Bytes} (front : p <+: bs) (closed : Closed p) :
    p <+: (wholeLines bs).flatten := by
  rw [eq_flatten_of_closed closed]
  exact (wholeLines_grown front).flatten

theorem EndsIn.lines {s : FinalState} {bs : Bytes} (h : EndsIn s bs) :
    ∃ earlier line, wholeLines bs = earlier ++ [line] ∧ stateOfLine? line = some s ∧ Closed bs := by
  obtain ⟨front, line, closed, isLine, rfl, state⟩ := h
  have one : wholeLines line = [line] := by
    have whole := wholeLines_flatten (List.forall_mem_singleton.mpr isLine)
    simpa using whole
  refine ⟨wholeLines front, line, ?_, state, ?_⟩
  · rw [wholeLines_append, (closed_iff_finished front).mp closed, List.nil_append, one]
  · obtain ⟨body, _, rfl⟩ := isLine
    exact Or.inr (by simp)

theorem upToEnd_front (ls : List Bytes) : upToEnd ls <+: ls := by
  induction ls with
  | nil => exact List.prefix_rfl
  | cons l ls ih =>
    unfold upToEnd
    split
    · exact ⟨ls, rfl⟩
    · exact (List.prefix_cons_inj l).mpr ih

theorem upToEnd_last {ls : List Bytes} {s : FinalState} (ended : stateIn? ls = some s) :
    ∃ earlier line, upToEnd ls = earlier ++ [line] ∧ stateOfLine? line = some s := by
  induction ls with
  | nil => contradiction
  | cons l ls ih =>
    simp only [stateIn?, List.findSome?_cons] at ended
    cases state : stateOfLine? l with
    | none =>
      rw [state] at ended
      obtain ⟨earlier, line, eq, last⟩ := ih ended
      exact ⟨l :: earlier, line, by simp [upToEnd, state, eq], last⟩
    | some s' =>
      rw [state] at ended
      exact ⟨[], l, by simp [upToEnd, state], by rw [state]; exact ended⟩

theorem EndsIn.after_first {s : FinalState} {bs p : Bytes} (h : EndsIn s p) (front : p <+: bs) :
    stateIn? (wholeLines bs) ≠ none ∧ (upToEnd (wholeLines bs)).flatten <+: p := by
  obtain ⟨earlier, line, lines, state, closed⟩ := h.lines
  obtain ⟨later, all⟩ := wholeLines_grown front
  cases ended : stateIn? (wholeLines p) with
  | none =>
    unfold stateIn? at ended
    rw [List.findSome?_eq_none_iff] at ended
    have silent := ended line (by simp [lines])
    rw [silent] at state
    contradiction
  | some s' =>
    rw [← all]
    constructor
    · rw [stateIn?_append, ended]
      nofun
    · rw [upToEnd_ended ended, eq_flatten_of_closed closed,
        wholeLines_flatten fun _ member => isLine_of_mem member]
      exact (upToEnd_front _).flatten

theorem due_of_lines (bs : Bytes) :
    Due bs (stateIn? (wholeLines bs)) (upToEnd (wholeLines bs)).flatten := by
  have front : (upToEnd (wholeLines bs)).flatten <+: bs :=
    (upToEnd_front _).flatten.trans (flatten_front bs)
  cases ended : stateIn? (wholeLines bs) with
  | none =>
    have all := upToEnd_of_endless ended
    refine .running front ?_ ?_ ?_
    · rw [all]
      exact closed_flatten fun _ member => isLine_of_mem member
    · intro p inside closed
      rw [all]
      exact closed_front inside closed
    · intro p s inside ends
      exact (ends.after_first inside).1 ended
  | some s =>
    obtain ⟨earlier, line, eq, state⟩ := upToEnd_last ended
    have inside : ∀ l ∈ earlier ++ [line], IsLine l := by
      intro l member
      rw [← eq] at member
      exact isLine_of_mem (upToEnd_subset member)
    refine .ended front ?_ fun p s' inside ends => (ends.after_first inside).2
    refine ⟨earlier.flatten, line, ?_, inside line (by simp), by simp [eq], state⟩
    exact closed_flatten fun l member => inside l (List.mem_append_left _ member)

/-! ### Polls of a growing log -/

theorem visible_cons (place : Nat) (content : Bytes) (a : Addition) (as : List Addition) (n : Nat) :
    visible place content (a :: as) (n + 1) = visible place (content ++ a.bytes) as n := by
  simp [visible]

theorem visible_zero (place : Nat) (content : Bytes) (as : List Addition) :
    visible place content as 0 = content.drop place := by
  simp [visible]

structure ShowsLines (already : Bytes) (place : Nat) (content : Bytes) (as : List Addition)
    (shown : List Bytes) (state : Option FinalState) : Prop extends GoesOn as shown state where
  idle : shown = [] → state = none
  lines : ∀ n < shown.length, already ++ (shown.take (n + 1)).flatten =
    (upToEnd (wholeLines (visible place content as (n + 1)))).flatten
  states : ∀ n < shown.length, stateIn? (wholeLines (visible place content as (n + 1))) =
    if n + 1 = shown.length then state else none

theorem goesOn_one {a : Addition} {as : List Addition} {first : Bytes} {state : Option FinalState}
    (stops : state = none → a.cancelled = true) : GoesOn (a :: as) [first] state where
  polled _ := Nat.one_pos
  bounded := by simp
  waited := by
    intro n b bound
    simp at bound
  cancelled := by
    intro n b last _ none found
    obtain rfl : n = 0 := by simpa using last
    have same : a = b := by simpa using found
    exact same ▸ stops none

theorem GoesOn.cons {a : Addition} {as : List Addition} {first : Bytes} {shown : List Bytes}
    {state : Option FinalState} (h : GoesOn as shown state) (waited : a.cancelled = false) :
    GoesOn (a :: as) (first :: shown) state where
  polled _ := Nat.succ_pos _
  bounded := Nat.succ_le_succ h.bounded
  waited := by
    intro n b bound found
    cases n with
    | zero =>
      have same : a = b := by simpa using found
      exact same ▸ waited
    | succ n => exact h.waited n b (Nat.lt_of_succ_lt_succ bound) (by simpa using found)
  cancelled := by
    intro n b last more none found
    cases n with
    | zero =>
      have nothing : shown.length = 0 := by simpa using last.symm
      have some : as ≠ [] := by
        rintro rfl
        simp at more
      have polled := h.polled some
      omega
    | succ n =>
      exact h.cancelled n b (by simpa using last) (by simpa using more) none (by simpa using found)

section Steps

variable {place : Nat} {already content first : Bytes} {a : Addition} {as : List Addition}
  {shown : List Bytes} {state : Option FinalState}

theorem showsLines_one
    (lines : already ++ first = (upToEnd (wholeLines ((content ++ a.bytes).drop place))).flatten)
    (states : stateIn? (wholeLines ((content ++ a.bytes).drop place)) = state)
    (stops : state = none → a.cancelled = true) :
    ShowsLines already place content (a :: as) [first] state where
  toGoesOn := goesOn_one stops
  idle := nofun
  lines := by
    intro n bound
    obtain rfl : n = 0 := by simpa using bound
    rw [visible_cons, visible_zero]
    simpa using lines
  states := by
    intro n bound
    obtain rfl : n = 0 := by simpa using bound
    rw [visible_cons, visible_zero]
    simpa using states

theorem ShowsLines.cons
    (h : ShowsLines (wholeLines ((content ++ a.bytes).drop place)).flatten place
      (content ++ a.bytes) as shown state)
    (lines : already ++ first = (wholeLines ((content ++ a.bytes).drop place)).flatten)
    (endless : stateIn? (wholeLines ((content ++ a.bytes).drop place)) = none)
    (waited : a.cancelled = false) :
    ShowsLines already place content (a :: as) (first :: shown) state where
  toGoesOn := h.toGoesOn.cons waited
  idle := nofun
  lines := by
    intro n bound
    rw [visible_cons, List.take_succ_cons, List.flatten_cons, ← List.append_assoc, lines]
    cases n with
    | zero => rw [visible_zero, upToEnd_of_endless endless, List.take_zero]; simp
    | succ n => exact h.lines n (Nat.lt_of_succ_lt_succ bound)
  states := by
    intro n bound
    rw [visible_cons]
    cases n with
    | zero =>
      rw [visible_zero, endless]
      split
      · rename_i last
        have nothing : shown = [] := List.eq_nil_of_length_eq_zero (by simpa using last.symm)
        exact (h.idle nothing).symm
      · rfl
    | succ n =>
      rw [h.states n (Nat.lt_of_succ_lt_succ bound)]
      simp

end Steps

theorem polls_growing {place : Nat} {seen content : Bytes} {f : Follow} (h : Reached place seen f)
    (grown : seen <+: content) (as : List Addition) :
    ∃ state, (polls (moments content as) f).2 = .ok state ∧
      ShowsLines (wholeLines (seen.drop place)).flatten place content as
        (polls (moments content as) f).1 state := by
  induction as generalizing seen content f with
  | nil =>
    refine ⟨none, rfl, ?_⟩
    constructor
    · constructor <;> simp [moments, polls]
    all_goals simp [moments, polls]
  | cons a as ih =>
    obtain ⟨shown, state, reached⟩ := poll_reached h (grown.trans (List.prefix_append _ a.bytes))
    simp only [moments, polls]
    cases ended : stateIn? (wholeLines ((content ++ a.bytes).drop place)) with
    | some s =>
      rw [ended] at state
      simp only [state]
      refine ⟨some s, rfl, showsLines_one shown ended ?_⟩
      intro endless
      contradiction
    | none =>
      rw [ended] at state
      simp only [state]
      cases cancelled : a.cancelled with
      | true => exact ⟨none, rfl, showsLines_one shown ended fun _ => cancelled⟩
      | false =>
        obtain ⟨final, result, later⟩ := ih (reached ended) List.prefix_rfl
        rw [upToEnd_of_endless ended] at shown
        exact ⟨final, result, later.cons shown ended cancelled⟩

theorem pollsFrom_eq {place : Nat} (reachable : place ≤ furthest) (ms : List Moment) :
    pollsFrom place ms = polls ms { offset := place } := by
  have near : ¬ furthest < place := Nat.not_lt.mpr reachable
  unfold pollsFrom
  split
  · exact if_neg near
  · rfl

/-- Following a log from a place inside it, while bytes are added in any pieces: every poll makes
the output what is due by then, a poll that completes a marker is the last one and tells its state,
and without a marker only a cancelled wait is followed by no other poll. -/
theorem pollsFrom_growing {place : Nat} {content : Bytes} {as : List Addition}
    (inside : place ≤ content.length) (fits : content.length ≤ furthest) :
    ∃ state, (pollsFrom place (moments content as)).2 = .ok state ∧
      ShowsGrowth place content as (pollsFrom place (moments content as)).1 state := by
  have start := reached_start inside
  obtain ⟨state, result, shown⟩ := polls_growing start (List.take_prefix place content) as
  have nothing : (content.take place).drop place = [] := by simp
  rw [pollsFrom_eq (Nat.le_trans inside fits)]
  refine ⟨state, result, shown.toGoesOn, ?_⟩
  intro n bound
  have due := due_of_lines (visible place content as (n + 1))
  rw [shown.states n bound, ← shown.lines n bound, nothing] at due
  exact due

def startedLog : Bytes := Utf8.encode (lit "run started\n")

def cutMarker : List Addition :=
  [{ bytes := Utf8.encode (lit "[2026-10-19 06:00:00] SUCCESS: ===== FINAL: SUCC") },
   { bytes := Utf8.encode (lit "ESS (attempts=2) =====\r\nover\n") }]

theorem cutMarker_growing :
    4 ≤ startedLog.length ∧ startedLog.length ≤ furthest ∧
    (pollsFrom 4 (moments startedLog cutMarker)).2 = .ok (some ⟨lit "SUCCESS", 2⟩) ∧
    ShowsGrowth 4 startedLog cutMarker (pollsFrom 4 (moments startedLog cutMarker)).1
      (some ⟨lit "SUCCESS", 2⟩) := by
  have inside : 4 ≤ startedLog.length := by decide
  have fits : startedLog.length ≤ furthest := by decide
  have ended : (pollsFrom 4 (moments startedLog cutMarker)).2 =
      .ok (some ⟨lit "SUCCESS", 2⟩) := by
    decide +kernel
  obtain ⟨state, result, shown⟩ := @pollsFrom_growing 4 startedLog cutMarker inside fits
  have same : state = some ⟨lit "SUCCESS", 2⟩ := Except.ok.inj (result.symm.trans ended)
  exact ⟨inside, fits, ended, same ▸ shown⟩

end BookingRetry.Follow
