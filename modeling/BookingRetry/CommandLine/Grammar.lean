import BookingRetry.Text.Numeral

/-!
Reading the words of a command line. Options come in any order, each at most once, and among them
one word that stands by its place. Two dashes alone end the options; what follows is either a
command of its own or, where there is none, goes on filling the place.

An option is settled, that is, its value is judged, when the next one comes or the words end. So
of two faults the earlier one is told, except that a word which fits nowhere is told at once.
-/
namespace BookingRetry.CommandLine

inductive UsageFault where
  | unknownArgument
  | invalidValue
  | valueValidation
  | argumentConflict
  | tooManyValues
  | missingRequired
  | invalidSubcommand
  | noSubcommand
  | help
  | version
  deriving DecidableEq, Repr

def UsageFault.exitCode : UsageFault → Nat
  | help => 0
  | version => 0
  | _ => 2

inductive Kind where
  | flag
  | text
  | path
  | count
  | help
  | version
  deriving DecidableEq, Repr

inductive Value where
  | on
  | text (t : Text)
  | count (n : Nat)
  deriving DecidableEq, Repr

structure Slot where
  name : Text
  short : Option Char := none
  kind : Kind
  deriving DecidableEq, Repr

def Slot.takesValue (s : Slot) : Bool := s.kind = .text || s.kind = .path || s.kind = .count

def Slot.judge (s : Slot) (v : Text) : Except UsageFault Value :=
  match s.kind with
  | .count =>
    match Numeral.readWord? v with
    | some n => .ok (.count n)
    | none => .error .valueValidation
  | .path => if v.isEmpty then .error .invalidValue else .ok (.text v)
  | _ => .ok (.text v)

structure Grammar where
  options : List Slot
  place : Option Slot
  hasCommand : Bool

structure Found where
  values : List (Text × Value) := []
  waiting : Option (Slot × Option Text) := none
  placed : Bool := false
  command : List Text := []

namespace Found

def has (f : Found) (name : Text) : Bool := f.values.any fun v => v.1 = name

def value? (f : Found) (name : Text) : Option Value :=
  (f.values.find? fun v => v.1 = name).map Prod.snd

def isOn (f : Found) (name : Text) : Bool := f.value? name = some .on

def text? (f : Found) (name : Text) : Option Text :=
  match f.value? name with
  | some (.text t) => some t
  | _ => none

def count? (f : Found) (name : Text) : Option Nat :=
  match f.value? name with
  | some (.count n) => some n
  | _ => none

/-- Keeps a value. That the option stands twice matters more than what the value is. -/
def give (f : Found) (slot : Slot) (v : Text) : Except UsageFault Found :=
  if f.has slot.name then .error .argumentConflict
  else match slot.judge v with
    | .ok x => .ok { f with values := f.values ++ [(slot.name, x)] }
    | .error e => .error e

def settled (f : Found) : Except UsageFault Found :=
  match f.waiting with
  | none => .ok f
  | some (_, none) => .error .invalidValue
  | some (slot, some v) => { f with waiting := none }.give slot v

def raise (f : Found) (slot : Slot) : Except UsageFault Found :=
  match f.settled with
  | .error e => .error e
  | .ok f =>
    match slot.kind with
    | .help => .error .help
    | .version => .error .version
    | _ =>
      if f.has slot.name then .error .argumentConflict
      else .ok { f with values := f.values ++ [(slot.name, .on)] }

def attach (f : Found) (slot : Slot) (v : Text) : Except UsageFault Found :=
  match f.settled with
  | .error e => .error e
  | .ok f => f.give slot v

def await (f : Found) (slot : Slot) : Except UsageFault Found :=
  match f.settled with
  | .error e => .error e
  | .ok f => .ok { f with waiting := some (slot, none) }

end Found

namespace Grammar

def long? (g : Grammar) (name : Text) : Option Slot := g.options.find? fun s => s.name = name

def short? (g : Grammar) (c : Char) : Option Slot := g.options.find? fun s => s.short = some c

def long (g : Grammar) (word : Text) (f : Found) : Except UsageFault Found :=
  let name := word.takeWhile fun c => c ≠ '='
  let value : Option Text := match word.dropWhile fun c => c ≠ '=' with
    | _ :: v => some v
    | [] => none
  match g.long? name with
  | none => .error .unknownArgument
  | some slot =>
    match slot.takesValue, value with
    | true, some v => f.attach slot v
    | true, none => f.await slot
    | false, some _ => .error .tooManyValues
    | false, none => f.raise slot

/-- A word with one dash in front: options of one letter each. One that takes a value takes the
rest of the word, if there is a rest. -/
def shorts (g : Grammar) : Text → Found → Except UsageFault Found
  | [], f => .ok f
  | c :: cs, f =>
    match g.short? c with
    | none => .error .unknownArgument
    | some slot =>
      if slot.takesValue then
        match cs with
        | [] => f.await slot
        | '=' :: v => f.attach slot v
        | v => f.attach slot v
      else match f.raise slot with
        | .error e => .error e
        | .ok f => shorts g cs f

def put (g : Grammar) (word : Text) (f : Found) : Except UsageFault Found :=
  match g.place with
  | none => .error .unknownArgument
  | some slot =>
    if f.placed then .error .unknownArgument
    else match f.settled with
      | .error e => .error e
      | .ok f => .ok { f with waiting := some (slot, some word), placed := true }

def plain (g : Grammar) (word : Text) (f : Found) : Except UsageFault Found :=
  match f.waiting with
  | some (slot, none) => .ok { f with waiting := some (slot, some word) }
  | _ => g.put word f

def word (g : Grammar) (w : Text) (f : Found) : Except UsageFault Found :=
  match w with
  | '-' :: '-' :: name => g.long name f
  | '-' :: c :: cs => g.shorts (c :: cs) f
  | _ => g.plain w f

def putAll (g : Grammar) : List Text → Found → Except UsageFault Found
  | [], f => f.settled
  | w :: ws, f =>
    match g.put w f with
    | .error e => .error e
    | .ok f => putAll g ws f

def afterDashes (g : Grammar) (ws : List Text) (f : Found) : Except UsageFault Found :=
  if g.hasCommand then
    match f.settled with
    | .error e => .error e
    | .ok f => .ok { f with command := ws }
  else g.putAll ws f

def dashes : Text := ['-', '-']

def readFrom (g : Grammar) : List Text → Found → Except UsageFault Found
  | [], f => f.settled
  | w :: ws, f =>
    if w = dashes then g.afterDashes ws f
    else match g.word w f with
      | .error e => .error e
      | .ok f => readFrom g ws f

def read (g : Grammar) (ws : List Text) : Except UsageFault Found := g.readFrom ws {}

end Grammar

end BookingRetry.CommandLine
