import BookingRetry.Booking
import BookingRetry.Shell.Reader
import BookingRetry.Shell.Pattern
import BookingRetry.Shell.Sum
import BookingRetry.Text.Utf8

/-!
What a shell remembers between commands, and where its streams lead.
-/
namespace BookingRetry.Shell

inductive Outlet where
  | nowhere
  | stream (i : Nat)
  deriving DecidableEq, Repr

structure Outlets where
  output : Outlet := .stream 0
  complaints : Outlet := .stream 1
  deriving DecidableEq, Repr

inductive Flow where
  | goesOn
  | exits
  | returns
  | breaks (loops : Nat)
  | continues (loops : Nat)
  | killed (signal : Nat)
  | exhausted
  deriving DecidableEq, Repr

structure State where
  name : Text
  arguments : List Text := []
  store : Variables
  exported : List Text
  status : Nat := 0
  captured : Nat := 0
  streams : List Bytes := [[], []]
  input : Bytes := []
  stopsOnFailure : Bool := false
  needsValues : Bool := false
  functions : List (Text × Command) := []
  loops : Nat := 0
  inFunction : Bool := false
  line : Nat := 1
  interrupts : Bool := false

def ownNumber : Text := lit "4243"

def parentNumber : Text := lit "4242"

namespace State

def stored? (s : State) (name : Text) : Option Text :=
  (s.store.find? fun v => v.1 = name).map Prod.snd

def assign (s : State) (name value : Text) : State :=
  { s with store := (name, value) :: s.store.filter fun v => v.1 ≠ name }

def environment (s : State) : List (Text × Text) :=
  s.store.filter fun v => s.exported.contains v.1

def value? (s : State) (name : Text) : Option Text :=
  match name with
  | ['#'] => some (Numeral.written s.arguments.length)
  | ['?'] => some (Numeral.written s.status)
  | ['$'] => some ownNumber
  | ['!'] => none
  | ['-'] => some []
  | ['0'] => some s.name
  | ['@'] => some (Text.joined [' '] s.arguments)
  | ['*'] => some (Text.joined [' '] s.arguments)
  | _ =>
    match Numeral.readDigits? name with
    | some n => s.arguments[n - 1]?
    | none => if name = lit "PPID" then some parentNumber else s.stored? name

def write (s : State) (p : Outlet) (bs : Bytes) : State :=
  match p with
  | .nowhere => s
  | .stream i => { s with streams := s.streams.modify i fun old => bs.reverse ++ old }

def complain (s : State) (p : Outlets) (message : Text) : State :=
  s.write p.complaints
    (Utf8.encode (s.name ++ lit ": " ++ Numeral.written s.line ++ lit ": " ++ message ++ ['\n']))

def withStatus (s : State) (n : Nat) : State := { s with status := n }

/-- The state after a shell of its own has ended: what it wrote and read stays, and its status. -/
def backFrom (s inner : State) : State :=
  { s with
    status := inner.status
    streams := inner.streams
    input := inner.input
    interrupts := inner.interrupts }

end State

end BookingRetry.Shell
