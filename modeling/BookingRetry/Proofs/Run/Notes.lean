import BookingRetry.Proofs.Run.Attempts
import BookingRetry.Proofs.Run.Failures

/-!
What a log has to say of a run, spelled out: of each attempt that it is made and what came of it,
sometimes a summary of all so far, and in the end what led to it and the marker.
-/
namespace BookingRetry.Run

structure Note where
  level : Log.Level
  message : Text

/-- An attempt, what its call came to, and the time at which a summary could follow it. -/
structure Round where
  attempt : Attempt
  verdict : Verdict
  talliedAt : Span

def startNote (number : Nat) (label : Text) (index total : Nat) : Note :=
  ⟨.info, lit "[attempt " ++ Numeral.written number ++ lit "] " ++ label ++ lit " (" ++
    Numeral.written (index + 1) ++ lit "/" ++ Numeral.written total ++ lit ")"⟩

def resultNote (number : Nat) (label : Text) : Verdict → Note
  | .success detail =>
    ⟨.success, lit "[attempt " ++ Numeral.written number ++ lit "] reserved " ++ label ++
      lit ": " ++ detail⟩
  | .fatal _ message =>
    ⟨.crit, lit "[attempt " ++ Numeral.written number ++ lit "] " ++ label ++
      lit ": input error, not retrying: " ++ message⟩
  | .retryable .unavailable message =>
    ⟨.warn, lit "[attempt " ++ Numeral.written number ++ lit "] " ++ label ++ lit ": " ++ message⟩
  | .retryable _ message =>
    ⟨.error, lit "[attempt " ++ Numeral.written number ++ lit "] " ++ label ++ lit ": " ++ message⟩

def failuresText (attempts : List Attempt) : Text :=
  if failureCount .transient attempts = 0 then lit "all attempts failed with unavailable"
  else if failureCount .unavailable attempts = 0 then lit "all attempts failed with transient"
  else lit "failures: unavailable=" ++ Numeral.written (failureCount .unavailable attempts) ++
    lit ", transient=" ++ Numeral.written (failureCount .transient attempts)

def summaryNote (attempts : List Attempt) (elapsed : Span) (remaining : Option Span) : Note :=
  ⟨.info, lit "summary: " ++ Numeral.written attempts.length ++ lit " attempts, elapsed " ++
    elapsed.minutesText ++ lit " min, remaining " ++
    (match remaining with
      | some d => d.minutesText ++ lit " min"
      | none => lit "n/a") ++
    lit ", " ++ failuresText attempts⟩

def markerNote : Outcome → Note
  | .success n _ =>
    ⟨.success, lit "===== FINAL: SUCCESS (attempts=" ++ Numeral.written n ++ lit ") ====="⟩
  | .timeout n =>
    ⟨.error, lit "===== FINAL: TIMEOUT (attempts=" ++ Numeral.written n ++ lit ") ====="⟩
  | .fatalInput n _ =>
    ⟨.crit, lit "===== FINAL: FATAL_INPUT (attempts=" ++ Numeral.written n ++ lit ") ====="⟩
  | .interrupted n =>
    ⟨.warn, lit "===== FINAL: INTERRUPTED (attempts=" ++ Numeral.written n ++ lit ") ====="⟩
  | .exhausted n =>
    ⟨.error, lit "===== FINAL: RETRYABLE_EXHAUSTED (attempts=" ++ Numeral.written n ++
      lit ") ====="⟩

namespace Plan

section Notes

variable (plan : Plan) (entered : Span)

/-- After a whole pass the next attempt begins another one. -/
def wrapNotes (earlier : Nat) : List Note :=
  if 0 < earlier ∧ plan.candidates.length ∣ earlier then
    [⟨.info, lit "all " ++ Numeral.written plan.candidates.length ++
      lit " targets tried, restarting from the beginning (pass " ++
      Numeral.written (earlier / plan.candidates.length + 1) ++ lit ")"⟩]
  else []

def callNotes (earlier : Nat) (r : Round) : List Note :=
  plan.wrapNotes earlier ++
    [startNote (earlier + 1) r.attempt.label r.attempt.index plan.candidates.length,
     resultNote (earlier + 1) r.attempt.label r.verdict]

def remainingAt (now : Span) : Option Span :=
  if plan.settings.retry then some ((entered.add plan.settings.timeout).sub now) else none

def summaryNotes (earlier : List Attempt) (r : Round) : List Note :=
  match r.verdict with
  | .retryable _ _ =>
    if plan.Sums (earlier.length + 1) then
      [summaryNote (earlier ++ [r.attempt]) (r.talliedAt.sub entered)
        (plan.remainingAt entered r.talliedAt)]
    else []
  | _ => []

def notesAfter (earlier : List Attempt) : List Round → List Note
  | [] => []
  | r :: rs =>
    plan.callNotes earlier.length r ++ plan.summaryNotes entered earlier r ++
      notesAfter (earlier ++ [r.attempt]) rs

def notes (rounds : List Round) : List Note := plan.notesAfter entered [] rounds

def closingNotes (o : Outcome) (now : Span) : List Note :=
  match o with
  | .timeout 0 => [⟨.error, lit "time budget is already spent; nothing attempted"⟩]
  | .timeout n =>
    [⟨.error, lit "deadline reached after " ++ Numeral.written n ++ lit " attempts (" ++
      (now.sub entered).minutesText ++ lit " min)"⟩]
  | .exhausted _ =>
    [⟨.error, lit "single pass over " ++ Numeral.written plan.candidates.length ++
      lit " targets finished without a reservation"⟩]
  | .interrupted _ => [⟨.warn, lit "interrupted by user"⟩]
  | .success _ _ | .fatalInput _ _ => []

def allNotes (rounds : List Round) (o : Outcome) (closedAt : Span) : List Note :=
  plan.notes entered rounds ++ plan.closingNotes entered o closedAt ++ [markerNote o]

/-- Of the closing records, the one that is written as soon as the end is certain. An interrupted
run has its record written with the marker. -/
def promptNotes (o : Outcome) (now : Span) : List Note :=
  match o with
  | .interrupted _ => []
  | o => plan.closingNotes entered o now

end Notes

def lastNotes (o : Outcome) : List Note :=
  match o with
  | .interrupted _ => [⟨.warn, lit "interrupted by user"⟩, markerNote o]
  | o => [markerNote o]

end Plan

/-! ### The notes are what the run writes -/

variable {plan : Plan} {attempts : List Attempt} {p : Progress} {entered : Span}

theorem startNote_eq (number : Nat) (label : Text) (index total : Nat) :
    startNote number label index total =
      ⟨.info, startMessage number label (index + 1) total⟩ := by
  have slash : lit "/" = ['/'] := rfl
  simp only [startNote, startMessage, attemptTag, slash, List.append_assoc, List.cons_append,
    List.nil_append]

theorem resultNote_eq {number : Nat} {label : Text} {verdict : Verdict}
    (bad : ∀ kind message, verdict = .fatal kind message → kind = .input) :
    resultNote number label verdict =
      ⟨resultLevel verdict, resultMessage number label verdict⟩ := by
  cases verdict with
  | success detail =>
    have tag : lit "] reserved " = lit "] " ++ lit "reserved " := rfl
    simp only [resultNote, resultLevel, resultMessage, attemptTag, tag, List.append_assoc]
  | fatal kind message =>
    have words : lit ": input error, not retrying: " =
        lit ": " ++ (lit "input" ++ lit " error, not retrying: ") := rfl
    rw [bad kind message rfl]
    simp only [resultNote, resultLevel, resultMessage, attemptTag, FailureKind.name, words,
      List.append_assoc]
  | retryable kind message => cases kind <;> rfl

theorem resultNote_judged {m : MarkerSet} {answer : Answer} (number : Nat) (label : Text) :
    resultNote number label (m.verdict answer) =
      ⟨resultLevel (m.verdict answer), resultMessage number label (m.verdict answer)⟩ := by
  have judged := MarkerSet.verdict_cases m answer
  refine resultNote_eq fun kind message fatal => ?_
  rw [fatal] at judged
  exact judged.1

theorem failuresText_eq (made : attempts ≠ []) (repeatable : AllRepeatable attempts) :
    failuresText attempts = tallyNote (.ofAttempts attempts) := by
  have sum := failureCounts_sum repeatable
  have positive : 0 < attempts.length := List.length_pos_iff.mpr made
  unfold failuresText
  rcases alike_or_mixed attempts with ⟨kind, alike⟩ | mixed
  · have all := failureCount_alike alike
    rw [tallyNote_alike made repeatable alike]
    cases kind with
    | unavailable => rw [if_pos (by omega)]; rfl
    | transient => rw [if_neg (by omega), if_pos (by omega)]; rfl
    | input =>
      have none := failureCount_input repeatable
      omega
  · obtain ⟨first, second⟩ := failureCounts_mixed repeatable mixed
    rw [tallyNote_mixed repeatable mixed, if_neg second, if_neg first]

theorem summaryNote_eq (counted : FailuresCounted p) (made : p.attempts ≠ []) (elapsed : Span)
    (remaining : Option Span) :
    summaryNote p.attempts elapsed remaining =
      ⟨.info, summaryMessage p.count p.failures elapsed remaining⟩ := by
  rw [counted.failures_eq]
  unfold summaryNote
  rw [failuresText_eq made counted.repeatable]
  have words : lit " min, remaining " = lit " min" ++ lit ", remaining " := rfl
  cases remaining <;>
    simp only [summaryMessage, minutesMessage, Progress.count, words, List.append_assoc]

theorem markerNote_eq (o : Outcome) : markerNote o = ⟨o.level, o.marker⟩ := by
  cases o <;> rfl

theorem Plan.wrapNotes_eq (earlier : Nat) :
    plan.wrapNotes earlier =
      if 0 < earlier ∧ plan.candidates.length ∣ earlier then
        [⟨.info, wrapMessage plan.candidates.length (earlier / plan.candidates.length + 1)⟩]
      else [] := by
  unfold wrapNotes wrapMessage
  rfl

theorem Plan.closingNotes_timeout {n : Nat} (made : n ≠ 0) (now : Span) :
    plan.closingNotes entered (.timeout n) now =
      [⟨.error, deadlineMessage n (now.sub entered)⟩] := by
  obtain ⟨k, rfl⟩ := Nat.exists_eq_succ_of_ne_zero made
  have words : lit " min)" = lit " min" ++ lit ")" := rfl
  simp only [closingNotes, deadlineMessage, minutesMessage, words, List.append_assoc]

theorem Plan.notesAfter_concat (earlier : List Attempt) (rounds : List Round) (r : Round) :
    plan.notesAfter entered earlier (rounds ++ [r]) =
      plan.notesAfter entered earlier rounds ++
        (plan.callNotes (earlier.length + rounds.length) r ++
          plan.summaryNotes entered (earlier ++ rounds.map Round.attempt) r) := by
  induction rounds generalizing earlier with
  | nil => simp [notesAfter]
  | cons first rest ih =>
    have more : (earlier ++ [first.attempt]).length + rest.length =
        earlier.length + (first :: rest).length := by
      simp only [List.length_append, List.length_cons, List.length_nil]
      omega
    simp only [List.cons_append, notesAfter, ih, more, List.append_assoc, List.map_cons]
    rfl

theorem Plan.notes_concat (rounds : List Round) (r : Round) :
    plan.notes entered (rounds ++ [r]) = plan.notes entered rounds ++
      (plan.callNotes rounds.length r ++
        plan.summaryNotes entered (rounds.map Round.attempt) r) := by
  have concat := @notesAfter_concat plan entered [] rounds r
  rwa [List.length_nil, Nat.zero_add, List.nil_append] at concat

theorem Plan.prompt_and_last (o : Outcome) (now : Span) :
    plan.promptNotes entered o now ++ lastNotes o =
      plan.closingNotes entered o now ++ [markerNote o] := by
  cases o <;> rfl

end BookingRetry.Run
