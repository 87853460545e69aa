import BookingRetry.Json.Printer
import BookingRetry.Log.Record

/-!
How a run ends, and the three places where it says so: the marker that closes its log, the stanza
on its output, and its exit code. A marker is read back by its fixed words, a state of capital
letters and underscores, and a count.
-/
namespace BookingRetry

inductive Outcome where
  | success (attempts : Nat) (detail : Text)
  | timeout (attempts : Nat)
  | fatalInput (attempts : Nat) (reason : Text)
  | interrupted (attempts : Nat)
  | exhausted (attempts : Nat)
  deriving DecidableEq, Repr

namespace Outcome

def attempts : Outcome → Nat
  | success n _ => n
  | timeout n => n
  | fatalInput n _ => n
  | interrupted n => n
  | exhausted n => n

def exitCode : Outcome → Nat
  | success .. => 0
  | timeout _ => 1
  | fatalInput .. => 2
  | interrupted _ => 130
  | exhausted _ => 1

def stateName : Outcome → Text
  | success .. => lit "SUCCESS"
  | timeout _ => lit "TIMEOUT"
  | fatalInput .. => lit "FATAL_INPUT"
  | interrupted _ => lit "INTERRUPTED"
  | exhausted _ => lit "RETRYABLE_EXHAUSTED"

def level : Outcome → Log.Level
  | success .. => .success
  | timeout _ => .error
  | fatalInput .. => .crit
  | interrupted _ => .warn
  | exhausted _ => .error

def finding : Outcome → Text
  | success _ detail => lit "reservation: " ++ detail
  | timeout _ => lit "deadline reached without a reservation"
  | fatalInput _ reason => lit "reason: " ++ reason
  | interrupted _ => lit "interrupted by user"
  | exhausted _ => lit "single pass finished without a reservation"

end Outcome

structure FinalState where
  state : Text
  attempts : Nat
  deriving DecidableEq, Repr

namespace FinalState

def opening : Text := lit "===== FINAL: "

def count : Text := lit " (attempts="

def closing : Text := lit " ====="

def written (s : FinalState) : Text :=
  opening ++ s.state ++ count ++ Numeral.written s.attempts ++ ')' :: closing

def isStateChar (c : Char) : Bool := ('A' ≤ c && c ≤ 'Z') || c = '_'

def read? (t : Text) : Option FinalState :=
  match Text.after? opening t with
  | none => none
  | some t =>
    match Text.before? closing t with
    | none => none
    | some t =>
      match Text.cut? count t with
      | none => none
      | some (state, rest) =>
        match (Text.before? [')'] rest).bind Numeral.readWord? with
        | none => none
        | some n => if !state.isEmpty && state.all isStateChar then some ⟨state, n⟩ else none

/-- The final state that a line of a log states: the line is a record, and its message a marker. -/
def ofLine? (line : Text) : Option FinalState :=
  (Log.Line.record? line).bind fun r => read? r.message

end FinalState

namespace Outcome

def finalState (o : Outcome) : FinalState := ⟨o.stateName, o.attempts⟩

def marker (o : Outcome) : Text := o.finalState.written

def stanzaRule : Text := lit "---"

def stanzaLines (o : Outcome) : List Text :=
  [stanzaRule, lit "outcome: " ++ o.stateName, lit "attempts: " ++ Numeral.written o.attempts,
   o.finding, lit "exit: " ++ Numeral.written o.exitCode, stanzaRule]

def stanza (o : Outcome) : Text := Text.joined ['\n'] o.stanzaLines

def json (o : Outcome) : Json.Value :=
  let tagged (state : String) (rest : List (Text × Json.Value)) : Json.Value :=
    .object
      ([(lit "state", .string (lit state)), (lit "attempts", .number (.whole o.attempts))] ++ rest)
  match o with
  | success _ detail =>
    tagged "success" [(lit "reservation", .object [(lit "detail", .string detail)])]
  | timeout _ => tagged "timeout" []
  | fatalInput _ reason => tagged "fatal_input" [(lit "reason", .string reason)]
  | interrupted _ => tagged "interrupted" []
  | exhausted _ => tagged "retryable_exhausted" []

end Outcome

def faultStanza (reason : Text) : Text :=
  Text.joined ['\n']
    [Outcome.stanzaRule, lit "outcome: INTERNAL_ERROR", lit "reason: " ++ reason, lit "exit: 2",
     Outcome.stanzaRule]

end BookingRetry
