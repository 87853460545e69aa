import BookingRetry.Log.Journal
import BookingRetry.Run.Report

/-!
What a run meets outside itself: a vendor, a clock that can be slept on, a calendar, a token that
can become cancelled, and its log. All that happens in a call or in a sleep is told by what comes
back from it; the rest is one value that the run's steps pass on.
-/
namespace BookingRetry.Run

/-- What a call brings: the answer, how long it took, and what else happened meanwhile. -/
structure Reply where
  answer : Answer
  latency : Span := .zero
  cancels : Bool := false
  breaksLog : Bool := false
  deriving DecidableEq, Repr

structure Nap where
  passed : Span
  cancels : Bool := false
  breaksLog : Bool := false
  deriving DecidableEq, Repr

structure World where
  /-- The call that comes after so many others, begun at a given time. -/
  call : Nat → Span → Candidate → Reply
  sleep : Nat → Span → Span → Nap
  /-- By how much the clock moves on before it is read once more; nought for a clock whose time
  passes in calls and sleeps only. -/
  drift : Nat → Span := fun _ => .zero
  stamp : Nat → Stamp := fun _ => .epoch

structure Scene where
  now : Span := .zero
  readings : Nat := 0
  cancelled : Bool := false
  stamps : Nat := 0
  journal : Log.Journal := {}
  calls : List (Candidate × Nat) := []
  sleeps : List Span := []

namespace Scene

def read (w : World) (s : Scene) : Scene :=
  { s with now := s.now.add (w.drift s.readings), readings := s.readings + 1 }

def record (w : World) (level : Log.Level) (message : Text) (s : Scene) :
    Except FileFault Unit × Scene :=
  let r := s.journal.record (w.stamp s.stamps) level message
  (r.1, { s with stamps := s.stamps + 1, journal := r.2 })

def header (w : World) (h : Log.Header) (s : Scene) : Except FileFault Unit × Scene :=
  let r := s.journal.header (w.stamp s.stamps) h
  (r.1, { s with stamps := s.stamps + 1, journal := r.2 })

def close (s : Scene) : Except FileFault Unit × Scene :=
  let r := s.journal.close
  (r.1, { s with journal := r.2 })

def after (passed : Span) (cancels breaksLog : Bool) (s : Scene) : Scene :=
  { s with
    now := s.now.add passed
    cancelled := s.cancelled || cancels
    journal := if breaksLog then { s.journal with sink := s.journal.sink.sealed } else s.journal }

end Scene

end BookingRetry.Run
