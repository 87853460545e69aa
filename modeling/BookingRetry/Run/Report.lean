import BookingRetry.Candidate
import BookingRetry.Outcome
import BookingRetry.Span
import BookingRetry.Verdict

/-!
What a run is told, what it tells afterwards, and the words of its records.
-/
namespace BookingRetry

def defaultEngineName : Text := lit "seatclaim"

structure RunSettings where
  retry : Bool := false
  timeout : Span := .ofSeconds 3600
  wait : Span := .ofSeconds 10
  minInterval : Span := .ofSeconds 1
  summaryEvery : Nat := 10
  engineName : Text := defaultEngineName
  origin : Text := []
  destination : Text := []
  deriving DecidableEq, Repr

inductive AttemptResult where
  | success
  | retryable (kind : FailureKind)
  | fatal (kind : FailureKind)
  deriving DecidableEq, Repr

def Verdict.result : Verdict → AttemptResult
  | .success _ => .success
  | .retryable kind _ => .retryable kind
  | .fatal kind _ => .fatal kind

structure Attempt where
  number : Nat
  index : Nat
  label : Text
  startedAt : Span
  finishedAt : Span
  result : AttemptResult
  deriving DecidableEq, Repr

/-- Failures that may be tried again, counted by kind. Each kind stands once, in the order of the
kinds. -/
abbrev Tally := List (FailureKind × Nat)

def FailureKind.place : FailureKind → Nat
  | unavailable => 0
  | transient => 1
  | input => 2

def Tally.add (kind : FailureKind) : Tally → Tally
  | [] => [(kind, 1)]
  | (k, n) :: rest =>
    if kind = k then (k, n + 1) :: rest
    else if kind.place < k.place then (kind, 1) :: (k, n) :: rest
    else (k, n) :: add kind rest

structure RunReport where
  outcome : Outcome
  attempts : List Attempt
  wraps : Nat
  startedAt : Span
  finishedAt : Span
  deriving DecidableEq, Repr

end BookingRetry

namespace BookingRetry.Run

def noCandidates : Text := lit "no candidates to attempt"

def preflightMessage (reason : Text) : Text := lit "preflight failed: " ++ reason

def budgetSpentMessage : Text := lit "time budget is already spent; nothing attempted"

def wrapMessage (total pass : Nat) : Text :=
  lit "all " ++ Numeral.written total ++
    lit " targets tried, restarting from the beginning (pass " ++ Numeral.written pass ++ lit ")"

def attemptTag (number : Nat) : Text := lit "[attempt " ++ Numeral.written number ++ lit "] "

def startMessage (number : Nat) (label : Text) (place total : Nat) : Text :=
  attemptTag number ++ label ++ lit " (" ++ Numeral.written place ++ '/' :: Numeral.written total ++
    lit ")"

def resultMessage (number : Nat) (label : Text) : Verdict → Text
  | .success detail => attemptTag number ++ lit "reserved " ++ label ++ lit ": " ++ detail
  | .fatal kind message =>
    attemptTag number ++ label ++ lit ": " ++ kind.name ++ lit " error, not retrying: " ++ message
  | .retryable _ message => attemptTag number ++ label ++ lit ": " ++ message

def resultLevel : Verdict → Log.Level
  | .success _ => .success
  | .fatal .. => .crit
  | .retryable .unavailable _ => .warn
  | .retryable _ _ => .error

/-- The kinds of failure so far: one alone, or each with its count. -/
def tallyNote (failures : Tally) : Text :=
  match failures with
  | [only] => lit "all attempts failed with " ++ only.1.name
  | _ =>
    lit "failures: " ++ Text.joined (lit ", ")
      (failures.map fun f => f.1.name ++ '=' :: Numeral.written f.2)

def minutesMessage (d : Span) : Text := d.minutesText ++ lit " min"

def summaryMessage (count : Nat) (failures : Tally) (elapsed : Span) (remaining : Option Span) :
    Text :=
  lit "summary: " ++ Numeral.written count ++ lit " attempts, elapsed " ++
    minutesMessage elapsed ++ lit ", remaining " ++
    (match remaining with
      | some d => minutesMessage d
      | none => lit "n/a") ++
    lit ", " ++ tallyNote failures

def passFinishedMessage (total : Nat) : Text :=
  lit "single pass over " ++ Numeral.written total ++ lit " targets finished without a reservation"

def deadlineMessage (count : Nat) (elapsed : Span) : Text :=
  lit "deadline reached after " ++ Numeral.written count ++ lit " attempts (" ++
    minutesMessage elapsed ++ lit ")"

def interruptedMessage : Text := lit "interrupted by user"

end BookingRetry.Run
