import BookingRetry.Number.Shortest

/-!
Lengths of time and points on a clock, in nanoseconds from nought to the largest count that a
clock holds: `2 ^ 64 - 1` seconds and all nanoseconds below one more. Sums stop at the largest
span and differences at nought.
-/
namespace BookingRetry

def nanosPerSecond : Nat := 1000000000

def maxNanos : Nat := Nat.pow 2 64 * nanosPerSecond - 1

structure Span where
  nanos : Nat
  in_range : nanos ≤ maxNanos := by decide
  deriving DecidableEq, Repr

namespace Span

def zero : Span := ⟨0, Nat.zero_le _⟩

instance : Inhabited Span := ⟨zero⟩

instance : LE Span := ⟨fun a b => a.nanos ≤ b.nanos⟩

instance : LT Span := ⟨fun a b => a.nanos < b.nanos⟩

instance (a b : Span) : Decidable (a ≤ b) := inferInstanceAs (Decidable (a.nanos ≤ b.nanos))

instance (a b : Span) : Decidable (a < b) := inferInstanceAs (Decidable (a.nanos < b.nanos))

def ofNanos (n : Nat) : Span := ⟨min n maxNanos, Nat.min_le_right _ _⟩

def ofParts (seconds nanos : Nat) : Span := ofNanos (seconds * nanosPerSecond + nanos)

def ofSeconds (seconds : Nat) : Span := ofParts seconds 0

def ofMillis (millis : Nat) : Span := ofNanos (millis * 1000000)

def seconds (a : Span) : Nat := a.nanos / nanosPerSecond

def subsecond (a : Span) : Nat := a.nanos % nanosPerSecond

def isZero (a : Span) : Bool := a.nanos = 0

def add (a b : Span) : Span := ofNanos (a.nanos + b.nanos)

def add? (a b : Span) : Option Span :=
  if h : a.nanos + b.nanos ≤ maxNanos then some ⟨a.nanos + b.nanos, h⟩ else none

def sub (a b : Span) : Span :=
  ⟨a.nanos - b.nanos, Nat.le_trans (Nat.sub_le _ _) a.in_range⟩

def minutes (a : Span) : Nat := a.seconds / 60

/-- The minutes as a binary number: seconds plus fraction, over sixty, each step rounded. -/
def minutesValue (a : Span) : Binary64 :=
  ((Binary64.ofNat a.seconds).add (Binary64.ofRatio a.subsecond nanosPerSecond)).div
    (Binary64.ofNat 60)

def minutesText (a : Span) : Text := Number.onePlace a.minutesValue

end Span

end BookingRetry
