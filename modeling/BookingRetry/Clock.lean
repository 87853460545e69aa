import BookingRetry.Span

/-!
A clock whose time passes in waits only, and a token that becomes cancelled at set moments of that
time. An alarm goes off while something waits: one that is due at the very end of a wait leaves
that wait whole and goes off in the next one. Calls are paced by the least distance between the end
of one and the start of the next.
-/
namespace BookingRetry

structure Clock where
  now : Span := .zero
  cancelled : Bool := false
  alarms : List Span := []
  delays : List Span := []
  deriving DecidableEq, Repr

inductive Waking where
  | ok
  | cancelled
  deriving DecidableEq, Repr

namespace Clock

def advance? (c : Clock) (d : Span) : Option Clock := (c.now.add? d).map fun now => { c with now }

def cancel (c : Clock) : Clock := { c with cancelled := true }

def cancelAfter (c : Clock) (d : Span) : Clock := { c with delays := c.delays ++ [d] }

def withAlarms (c : Clock) : Clock :=
  { c with alarms := c.alarms ++ c.delays.map c.now.add, delays := [] }

def earliest? : List Span → Option Span
  | [] => none
  | t :: ts =>
    match earliest? ts with
    | none => some t
    | some u => if t ≤ u then some t else some u

def alarmBefore? (c : Clock) (t : Span) : Option Span := (earliest? c.alarms).filter fun a => a < t

def sleep (c : Clock) (d : Span) : Clock :=
  if d.isZero then c
  else
    let c := c.withAlarms
    let wake := c.now.add d
    { c with now := wake, cancelled := c.cancelled || (c.alarmBefore? wake).isSome }

/-- A wait that ends when the token becomes cancelled. A token that is cancelled already is seen
even by a wait of no length. -/
def sleepOrCancel (c : Clock) (d : Span) : Waking × Clock :=
  if c.cancelled then (.cancelled, c)
  else if d.isZero then (.ok, c)
  else
    let c := c.withAlarms
    let wake := c.now.add d
    match c.alarmBefore? wake with
    | some t => (.cancelled, { c with now := if t ≤ c.now then c.now else t, cancelled := true })
    | none => (.ok, { c with now := wake })

end Clock

structure Pacing where
  minInterval : Span
  last : Option Span := none
  deriving DecidableEq, Repr

structure Clearance where
  free : Bool
  wait : Span
  deriving DecidableEq, Repr

namespace Pacing

/-- A clock that stands before the last call counts as if no time had passed. -/
def check (p : Pacing) (now : Span) : Clearance :=
  match p.last with
  | none => ⟨true, .zero⟩
  | some last =>
    let elapsed := now.sub last
    if p.minInterval ≤ elapsed then ⟨true, .zero⟩ else ⟨false, p.minInterval.sub elapsed⟩

def record (p : Pacing) (now : Span) : Pacing := { p with last := some now }

end Pacing

end BookingRetry
