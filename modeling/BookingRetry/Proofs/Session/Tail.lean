import BookingRetry.Proofs.Observer.Reading
import BookingRetry.Session.Tail

/-!
A tail that follows while another program writes. Between the reading of the log and the taking of
its length the log may grow, and following starts where the length says; so the end of a run can be
missed, and it cannot be missed exactly if nothing was added in between and the log that was read
ends where a line ends.
-/
namespace BookingRetry

namespace TailRequest

open Follow

/-- What a tail meets while another program adds to the log: what it reads, the log whose length it
takes, and what the last poll finds. -/
structure Interleaved (v : TailView) (read measured last : Bytes) : Prop where
  content_eq : v.content = .ok read
  size_eq : v.size = .ok measured.length
  grown : read <+: measured
  watched : Watched measured v.polls last

def Marked (bs : Bytes) : Prop :=
  ∃ l ∈ wholeLines bs, ∃ s, FinalState.ofLine? (textOf l) = some s

/-- The lines that became whole after the log had been read. -/
def linesSince (read last : Bytes) : List Bytes := (wholeLines last).drop (wholeLines read).length

/-- The end of the run is told: either what was read has it, or following comes to it and shows in
full, up to the marker, the lines that became whole since the reading. -/
def EndTold (r : TailRequest) (tree : Tree) (path : Text) (v : TailView)
    (read measured last : Bytes) : Prop :=
  let report := TailReport.ofBytes r.lines read
  let followed := polls v.polls { offset := measured.length }
  report.finalState ≠ none ∨
    ∃ s, followed.2 = .ok (some s) ∧ stateIn? (linesSince read last) = some s ∧
      (upToEnd (linesSince read last)).Sublist (wholeLines followed.1.flatten) ∧
      r.shown tree path v =
        { output := Session.lines (shownLines path report) ++ followed.1.flatten ++
            Session.line s.statusLine
          exitCode := 0, tree }

variable {r : TailRequest} {tree : Tree} {path : Text} {v : TailView}
  {read measured last : Bytes}

theorem Interleaved.followed (h : Interleaved v read measured last) :
    let behind := wholeLines (last.drop measured.length)
    (polls v.polls { offset := measured.length }).1.flatten = (upToEnd behind).flatten ∧
      (polls v.polls { offset := measured.length }).2 = .ok (stateIn? behind) := by
  have start := reached_start (Nat.le_refl measured.length)
  rw [List.take_length] at start
  have seen := polls_watched h.watched start
  rw [List.drop_length] at seen
  exact seen

theorem Interleaved.shown_ended (h : Interleaved v read measured last) (follows : r.follow = true)
    (running : (TailReport.ofBytes r.lines read).finalState = none) {s : FinalState}
    (ended : (polls v.polls { offset := measured.length }).2 = .ok (some s)) :
    r.shown tree path v =
      { output := Session.lines (shownLines path (TailReport.ofBytes r.lines read)) ++
          (polls v.polls { offset := measured.length }).1.flatten ++ Session.line s.statusLine
        exitCode := 0, tree } := by
  unfold shown
  simp [h.content_eq, h.size_eq, follows, running, ended]

theorem not_marked_of_running (running : (TailReport.ofBytes r.lines read).finalState = none) :
    ¬ Marked read := by
  rintro ⟨l, member, s, marked⟩
  obtain ⟨more, lines⟩ := lines_decode read
  have silent : TailReport.lastState? (Text.lines (Utf8.decodeLossy read)) = none := running
  unfold TailReport.lastState? at silent
  rw [List.findSome?_eq_none_iff] at silent
  have met : textOf l ∈ Text.lines (Utf8.decodeLossy read) := by
    rw [lines]
    exact List.mem_append_left _ (List.mem_map_of_mem member)
  rw [silent _ (List.mem_reverse.mpr met)] at marked
  contradiction

theorem endTold_of_aligned (h : Interleaved v read read last) (follows : r.follow = true)
    (running : (TailReport.ofBytes r.lines read).finalState = none) (whole : unfinished read = [])
    (marked : Marked last) : EndTold r tree path v read read last := by
  obtain ⟨shown, state⟩ := h.followed
  obtain ⟨new, rfl⟩ := h.watched.grown
  have lines : wholeLines (read ++ new) = wholeLines read ++ wholeLines new := by
    rw [wholeLines_append, whole, List.nil_append]
  have since : linesSince read (read ++ new) = wholeLines new := by simp [linesSince, lines]
  rw [List.drop_left] at shown state
  obtain ⟨l, member, s, marker⟩ := marked
  rw [lines] at member
  have late : l ∈ wholeLines new := by
    rcases List.mem_append.mp member with early | late
    · exact absurd ⟨l, early, s, marker⟩ (not_marked_of_running running)
    · exact late
  cases ended : stateIn? (wholeLines new) with
  | none => exact absurd ended (stateIn?_of_marker late (isLine_of_mem late) marker)
  | some s' =>
    rw [ended] at state
    refine Or.inr ⟨s', state, ?_, ?_, h.shown_ended follows running state⟩
    · rw [since, ended]
    · simp only [since, shown, wholeLines_upToEnd, List.Sublist.refl]

section Missed

variable {s : FinalState}

def finishedWith (measured : Bytes) (s : FinalState) : Bytes :=
  measured ++ ([lineFeed] ++ markerLine s)

theorem wholeLines_rest (line : IsLine (markerLine s)) :
    wholeLines ([lineFeed] ++ markerLine s) = [[lineFeed], markerLine s] := by
  have first : IsLine [lineFeed] := ⟨[], nofun, rfl⟩
  have both : ∀ l ∈ [[lineFeed], markerLine s], IsLine l :=
    List.forall_mem_cons.mpr ⟨first, List.forall_mem_singleton.mpr line⟩
  have whole := wholeLines_flatten both
  simpa using whole

theorem stateIn?_rest (state : stateOfLine? (markerLine s) = some s) :
    stateIn? [[lineFeed], markerLine s] = some s ∧
      upToEnd [[lineFeed], markerLine s] = [[lineFeed], markerLine s] := by
  have blank : stateOfLine? [lineFeed] = none := by decide +kernel
  constructor
  · simp [stateIn?, blank, state]
  · simp [upToEnd, blank, state]

theorem wholeLines_finishedWith (line : IsLine (markerLine s)) (measured : Bytes) :
    wholeLines (finishedWith measured s) =
      wholeLines (measured ++ [lineFeed]) ++ [markerLine s] := by
  have mark : wholeLines (markerLine s) = [markerLine s] := by
    have whole := wholeLines_flatten (List.forall_mem_singleton.mpr line)
    simpa using whole
  rw [finishedWith, ← List.append_assoc, wholeLines_append, unfinished_lineFeed, List.nil_append,
    mark]

theorem linesSince_lineFeed (grown : read <+: measured) :
    linesSince read (measured ++ [lineFeed]) =
      linesSince read measured ++ [unfinished measured ++ [lineFeed]] := by
  have fewer : (wholeLines read).length ≤ (wholeLines measured).length :=
    (wholeLines_grown grown).length_le
  rw [linesSince, wholeLines_lineFeed, List.drop_append_of_le_length fewer, linesSince]

theorem linesSince_finishedWith (line : IsLine (markerLine s)) (grown : read <+: measured) :
    linesSince read (finishedWith measured s) =
      linesSince read (measured ++ [lineFeed]) ++ [markerLine s] := by
  have closed : read <+: measured ++ [lineFeed] := grown.trans (List.prefix_append _ _)
  have fewer := (wholeLines_grown closed).length_le
  rw [linesSince, wholeLines_finishedWith line, List.drop_append_of_le_length fewer, linesSince]

theorem aligned_of_told (grown : read <+: measured) (line : IsLine (markerLine s))
    (state : stateOfLine? (markerLine s) = some s)
    (fresh : ∀ l ∈ wholeLines (measured ++ [lineFeed]), stateOfLine? l ≠ some s)
    (found : stateIn? (linesSince read (finishedWith measured s)) = some s)
    (told : (upToEnd (linesSince read (finishedWith measured s))).Sublist
      [[lineFeed], markerLine s]) :
    measured = read ∧ unfinished read = [] := by
  rw [linesSince_finishedWith line grown] at found told
  have endless : stateIn? (linesSince read (measured ++ [lineFeed])) = none := by
    cases ended : stateIn? (linesSince read (measured ++ [lineFeed])) with
    | none => rfl
    | some s' =>
      obtain ⟨l, member, same⟩ := List.exists_of_findSome?_eq_some ended
      rw [stateIn?_append, ended, Option.some_or] at found
      rw [found] at same
      exact absurd same (fresh l (List.mem_of_mem_drop member))
  have last : upToEnd [markerLine s] = [markerLine s] := by simp [upToEnd, state]
  rw [upToEnd_endless endless, last] at told
  have few : (linesSince read (measured ++ [lineFeed])).Sublist [[lineFeed]] :=
    (List.append_sublist_append_right _).mp told
  rw [linesSince_lineFeed grown] at few
  have one : linesSince read measured ++ [unfinished measured ++ [lineFeed]] = [] ++ [[lineFeed]] :=
    few.eq_of_length_le (by simp)
  obtain ⟨none, torn⟩ := List.append_inj' one rfl
  refine eq_of_same_lines grown (List.drop_eq_nil_iff.mp none) ?_
  simpa using torn

theorem aligned_of_always_told (grown : read <+: measured)
    (running : (TailReport.ofBytes r.lines read).finalState = none)
    (always : ∀ v last, Interleaved v read measured last → Marked last →
      EndTold r tree path v read measured last) : measured = read ∧ unfinished read = [] := by
  obtain ⟨s, other, named, letters, fits⟩ := FinalState.exists_other
    ((wholeLines (measured ++ [lineFeed])).filterMap stateOfLine?)
  have fresh : ∀ l ∈ wholeLines (measured ++ [lineFeed]), stateOfLine? l ≠ some s := by
    intro l member same
    exact other (List.mem_filterMap.mpr ⟨l, member, same⟩)
  obtain ⟨line, marker⟩ := markerLine_spec named letters fits
  have state := stateOfLine?_of_textOf line marker
  have growing : measured <+: finishedWith measured s := List.prefix_append _ _
  have interleaved : Interleaved
      { content := .ok read, size := .ok measured.length
        polls := [{ content := .ok (finishedWith measured s) }] }
      read measured (finishedWith measured s) :=
    ⟨rfl, rfl, grown, .last rfl rfl growing⟩
  have marked : Marked (finishedWith measured s) := by
    refine ⟨markerLine s, ?_, s, marker⟩
    rw [wholeLines_finishedWith line]
    exact List.mem_append_right _ (List.mem_singleton_self _)
  obtain ⟨shown, states⟩ := interleaved.followed
  obtain ⟨rest, all⟩ := stateIn?_rest state
  have behind : wholeLines ((finishedWith measured s).drop measured.length) =
      [[lineFeed], markerLine s] := by
    rw [finishedWith, List.drop_left, wholeLines_rest line]
  rcases always _ _ interleaved marked with ended | ⟨s', result, found, told, _⟩
  · exact absurd running ended
  · rw [states, behind, rest] at result
    cases result
    have lines := wholeLines_upToEnd ((finishedWith measured s).drop measured.length)
    rw [← shown, behind, all] at lines
    rw [lines] at told
    exact aligned_of_told grown line state fresh found told

end Missed

/-- Whatever is added to a log, following it tells the end of its run if and only if what was read
has the end already, or following starts where the reading ended and a line ends there. -/
theorem following_tells_end_iff (follows : r.follow = true) (grown : read <+: measured) :
    (∀ v last, Interleaved v read measured last → Marked last →
      EndTold r tree path v read measured last) ↔
    ((TailReport.ofBytes r.lines read).finalState ≠ none ∨
      measured = read ∧ (read = [] ∨ read.getLast? = some lineFeed)) := by
  rw [← unfinished_eq_nil_iff]
  cases running : (TailReport.ofBytes r.lines read).finalState with
  | some s =>
    have ended : (TailReport.ofBytes r.lines read).finalState ≠ none := by
      rw [running]
      nofun
    exact ⟨fun _ => Or.inl nofun, fun _ _ _ _ _ => Or.inl ended⟩
  | none =>
    constructor
    · intro always
      exact Or.inr (aligned_of_always_told grown running always)
    · rintro (ended | ⟨rfl, whole⟩) v last interleaved marked
      · contradiction
      · exact endTold_of_aligned interleaved follows running whole marked

def tornLog : Bytes := Utf8.encode (lit "[2026-10-19 06:00:00] SUCCESS: ===== FINAL: SUCC")

def tornRest : Bytes := Utf8.encode (lit "ESS (attempts=2) =====\n")

def tornView (read : Bytes) : TailView where
  content := .ok read
  size := .ok read.length
  polls := [{ content := .ok tornLog }, { content := .ok (tornLog ++ tornRest) }]

theorem tornView_interleaved {read : Bytes} (grown : read <+: tornLog) :
    Interleaved (tornView read) read read (tornLog ++ tornRest) where
  content_eq := rfl
  size_eq := rfl
  grown := List.prefix_rfl
  watched := .next rfl rfl rfl grown (.last rfl rfl (List.prefix_append _ _))

theorem torn_marked : Marked (tornLog ++ tornRest) := by
  have lines : wholeLines (tornLog ++ tornRest) = [tornLog ++ tornRest] := by decide +kernel
  refine ⟨tornLog ++ tornRest, ?_, ⟨lit "SUCCESS", 2⟩, by decide +kernel⟩
  rw [lines]
  exact List.mem_singleton_self _

theorem empty_log_told :
    let r : TailRequest := { follow := true }
    r.follow = true ∧ ([] : Bytes) <+: [] ∧
      EndTold r {} (lit "run.log") (tornView []) [] [] (tornLog ++ tornRest) := by
  intro r
  have aligned : (TailReport.ofBytes r.lines []).finalState ≠ none ∨
      ([] : Bytes) = [] ∧ (([] : Bytes) = [] ∨ ([] : Bytes).getLast? = some lineFeed) :=
    Or.inr ⟨rfl, Or.inl rfl⟩
  refine ⟨rfl, List.prefix_rfl, ?_⟩
  have interleaved := tornView_interleaved (List.nil_prefix (l := tornLog))
  exact (following_tells_end_iff rfl List.prefix_rfl).mpr aligned _ _ interleaved torn_marked

theorem torn_marker_missed :
    Interleaved (tornView tornLog) tornLog tornLog (tornLog ++ tornRest) ∧
      Marked (tornLog ++ tornRest) ∧
      ¬ EndTold { follow := true } {} (lit "run.log") (tornView tornLog) tornLog tornLog
        (tornLog ++ tornRest) := by
  refine ⟨tornView_interleaved List.prefix_rfl, torn_marked, ?_⟩
  have running : (TailReport.ofBytes defaultTailLines tornLog).finalState = none := by
    decide +kernel
  have silent : (polls (tornView tornLog).polls { offset := tornLog.length }).2 = .ok none := by
    rfl
  rintro (ended | ⟨s, told, _⟩)
  · exact ended running
  · rw [silent] at told
    cases Except.ok.inj told

end TailRequest

end BookingRetry
