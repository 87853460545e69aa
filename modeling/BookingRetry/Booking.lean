import BookingRetry.Candidate
import BookingRetry.Host
import BookingRetry.Json.Printer
import BookingRetry.Verdict

/-!
The booking command: a program that is started once for each attempt and is told the candidate in
its environment. If it ends well, what it has written is the reservation. Otherwise the failure is
what it complained of, else what it has written, else how it ended. What starting a program comes to
is up to the machine, and a parameter here.
-/
namespace BookingRetry

inductive Ending where
  | code (n : Nat)
  | signal (n : Nat)
  deriving DecidableEq, Repr

def signalNames : List String :=
  ["HUP", "INT", "QUIT", "ILL", "TRAP", "ABRT", "BUS", "FPE", "KILL", "USR1", "SEGV", "USR2",
   "PIPE", "ALRM", "TERM", "STKFLT", "CHLD", "CONT", "STOP", "TSTP", "TTIN", "TTOU", "URG", "XCPU",
   "XFSZ", "VTALRM", "PROF", "WINCH", "IO", "PWR", "SYS"]

def signalName? (n : Nat) : Option Text :=
  if n = 0 then none else signalNames[n - 1]?.map lit

def signalNumber? (name : Text) : Option Nat :=
  (signalNames.findIdx? fun s => lit s = name).map fun i => i + 1

namespace Ending

def isSuccess (e : Ending) : Bool := e = .code 0

def message : Ending → Text
  | code n => lit "exit status: " ++ Numeral.written n
  | signal n =>
    lit "signal: " ++ Numeral.written n ++
      match signalName? n with
      | some name => lit " (SIG" ++ name ++ lit ")"
      | none => []

def status : Ending → Nat
  | code n => n
  | signal n => 128 + n

end Ending

namespace Program

structure Call where
  path : Text
  name : Text
  arguments : List Text
  environment : List (Text × Text)
  input : Bytes := []
  deriving DecidableEq, Repr

structure Finish where
  output : Bytes := []
  complaints : Bytes := []
  ending : Ending := .code 0
  interrupts : Bool := false
  deriving DecidableEq, Repr

def nullChar : Char := '\x00'

def Call.hasNull (c : Call) : Bool :=
  c.path.contains nullChar || c.name.contains nullChar ||
    c.arguments.any (fun a => a.contains nullChar) ||
    c.environment.any fun v => v.1.contains nullChar || v.2.contains nullChar

end Program

structure Booking where
  program : Text
  arguments : List Text
  deriving DecidableEq, Repr

def Program.Finish.answer (r : Program.Finish) : Answer :=
  let written := Text.trim (Utf8.decodeLossy r.output)
  let complained := Text.trim (Utf8.decodeLossy r.complaints)
  if r.ending.isSuccess then .reserved written
  else if !complained.isEmpty then .failed complained
  else if !written.isEmpty then .failed written
  else .failed (lit "reservation command exited with " ++ r.ending.message)

namespace Booking

def idVariable : Text := lit "SEATCLAIM_CANDIDATE_ID"

def labelVariable : Text := lit "SEATCLAIM_CANDIDATE_LABEL"

def jsonVariable : Text := lit "SEATCLAIM_CANDIDATE_JSON"

def attemptVariable : Text := lit "SEATCLAIM_ATTEMPT"

def attemptVariables (c : Candidate) (attempt : Nat) : List (Text × Text) :=
  [(idVariable, c.id), (labelVariable, c.label), (jsonVariable, c.json.written),
   (attemptVariable, Numeral.written attempt)]

def environment (h : Host) (c : Candidate) (attempt : Nat) : List (Text × Text) :=
  let own := attemptVariables c attempt
  own ++ h.environment.filter fun v => !own.any fun o => o.1 = v.1

variable (launch : Host → Program.Call → Except FileFault Program.Finish)

/-- What the program is told is looked at before its file is. -/
def start (b : Booking) (h : Host) (c : Candidate) (attempt : Nat) :
    Except FileFault Program.Finish :=
  let call : Program.Call :=
    { path := b.program, name := b.program, arguments := b.arguments
      environment := environment h c attempt }
  if call.hasNull then .error .nullByte
  else match Program.find h call.environment b.program with
    | .error f => .error f
    | .ok path => launch h { call with path }

def launchFailure (program : Text) (f : FileFault) : Text :=
  lit "failed to launch " ++ program ++ lit ": " ++ f.message

def answerBy (b : Booking) (h : Host) (c : Candidate) (attempt : Nat) : Answer :=
  match b.start launch h c attempt with
  | .ok r => r.answer
  | .error f => .failed (launchFailure b.program f)

end Booking

end BookingRetry
