import BookingRetry.Candidate.Reader
import BookingRetry.Config.Engine
import BookingRetry.Candidate

/-!
What stops the program, in its own words, and what the program leaves behind when it is over. A
failure may have causes below it; where the program gives up, it tells them all.
-/
namespace BookingRetry

inductive Failure where
  | logCreate (path : Text) (f : FileFault)
  | logWrite (f : FileFault)
  | candidatesRead (path : Text) (f : FileFault)
  | candidatesParse (path : Text) (f : Json.ReadFault)
  | selection (f : SelectionFault)
  | config (f : ConfigFault)
  | noLogFound (directory : Text)
  | io (f : FileFault)
  | during (words : Text) (f : Failure)
  deriving DecidableEq, Repr

namespace Failure

def message : Failure → Text
  | logCreate path f => lit "Failed to create log file " ++ path ++ lit ": " ++ f.message
  | logWrite f => lit "Failed to write progress log: " ++ f.message
  | candidatesRead path f => lit "Failed to read candidates from " ++ path ++ lit ": " ++ f.message
  | candidatesParse path f => lit "Malformed candidates file " ++ path ++ lit ": " ++ f.message
  | selection f => lit "Invalid target selection: " ++ f.reason
  | config f => lit "Configuration error: " ++ f.reason
  | noLogFound directory => lit "No log files found in " ++ directory
  | io f => lit "IO error: " ++ f.message
  | during words _ => words

/-- A failure and its causes, the last cause at the end. -/
def chain : Failure → List Text
  | during words f => words :: f.chain
  | logCreate path f => [(logCreate path f).message, f.message]
  | logWrite f => [(logWrite f).message, f.message]
  | candidatesRead path f => [(candidatesRead path f).message, f.message]
  | candidatesParse path f => [(candidatesParse path f).message, f.message]
  | io f => [(io f).message, f.message]
  | f => [f.message]

def account (f : Failure) : Text := Text.joined (lit ": ") f.chain

end Failure

def CandidateSet.load (h : Host) (path : Text) : Except Failure CandidateSet :=
  match h.read path with
  | .error f => .error (.candidatesRead path f)
  | .ok content =>
    match Utf8.decode? content with
    | none => .error (.candidatesRead path .notText)
    | some t =>
      match CandidateSet.ofText t with
      | .ok s => .ok s
      | .error f => .error (.candidatesParse path f)

structure Session where
  output : Bytes := []
  complaints : Text := []
  exitCode : Nat
  tree : Tree
  calls : List (Candidate × Nat) := []

namespace Session

def failureCode : Nat := 2

def complaint (words : Text) : Text := lit "seatclaim: " ++ words ++ ['\n']

def stopped (output : Bytes) (tree : Tree) (words : Text) : Session :=
  { output, complaints := complaint words, exitCode := failureCode, tree }

def line (t : Text) : Bytes := Utf8.encode (t ++ ['\n'])

def lines (ts : List Text) : Bytes := ts.flatMap line

end Session

end BookingRetry
