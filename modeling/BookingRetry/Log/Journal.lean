import BookingRetry.Files.Basic
import BookingRetry.Log.Record
import BookingRetry.Span
import BookingRetry.Text.Utf8

/-!
The progress log of a run. Every line goes first to a mirror, if there is one, and then to the
log file while that is open. The two have opposite policies: what happens to the mirror never
matters, and a write that fails at the file is a fault of the log.
-/
namespace BookingRetry.Log

/-- The file behind a log: what it holds, the most that it takes, and which of the writes to it
fail and leave nothing. -/
structure Sink where
  bytes : Bytes := []
  limit : Option Nat := none
  faults : Nat → Option FileFault := fun _ => none
  syncFault : Option FileFault := none
  writes : Nat := 0

/-- A write past the limit leaves what fits. -/
def Sink.append (s : Sink) (bs : Bytes) : Except FileFault Unit × Sink :=
  let counted := { s with writes := s.writes + 1 }
  match s.faults s.writes with
  | some f => (.error f, counted)
  | none =>
    match s.limit with
    | none => (.ok (), { counted with bytes := s.bytes ++ bs })
    | some most =>
      if s.bytes.length + bs.length ≤ most then (.ok (), { counted with bytes := s.bytes ++ bs })
      else (.error .tooLarge, { counted with bytes := s.bytes ++ bs.take (most - s.bytes.length) })

def Sink.sealed (s : Sink) : Sink := { s with limit := some s.bytes.length }

/-- A second place for the lines; `takes k` tells whether the `k`-th line offered arrives, and
`flushes k` whether it is then brought out. -/
structure Mirror where
  takes : Nat → Bool := fun _ => true
  flushes : Nat → Bool := fun _ => true
  offered : Nat := 0
  shown : List Text := []

def Mirror.offer (line : Text) (m : Mirror) : Bool × Mirror :=
  (m.takes m.offered && m.flushes m.offered,
    { m with
      offered := m.offered + 1
      shown := if m.takes m.offered then m.shown ++ [line] else m.shown })

structure Journal where
  sink : Sink := {}
  isOpen : Bool := true
  mirror : Option Mirror := none

namespace Journal

def write (line : Text) (j : Journal) : Except FileFault Unit × Journal :=
  -- Whether the mirror failed is not asked: the file has the word on how it went.
  let j := { j with mirror := j.mirror.map fun m => (Mirror.offer line m).2 }
  if j.isOpen then
    let r := j.sink.append (Utf8.encode (line ++ ['\n']))
    (r.1, { j with sink := r.2 })
  else (.ok (), j)

def raw (t : Text) (j : Journal) : Except FileFault Unit × Journal := j.write (Text.folded t)

def record (stamp : Stamp) (level : Level) (message : Text) (j : Journal) :
    Except FileFault Unit × Journal :=
  j.write (Record.written ⟨stamp, level, Text.folded message⟩)

def close (j : Journal) : Except FileFault Unit × Journal :=
  if j.isOpen then
    (match j.sink.syncFault with
      | some f => .error f
      | none => .ok (), { j with isOpen := false })
  else (.ok (), j)

def rawAll : List Text → Journal → Except FileFault Unit × Journal
  | [], j => (.ok (), j)
  | t :: ts, j =>
    match j.raw t with
    | (.ok (), j) => rawAll ts j
    | failed => failed

end Journal

structure Header where
  engineName : Text
  origin : Text
  destination : Text
  /-- The time budget; none for a single pass. -/
  timeout : Option Span
  interval : Span
  targets : Nat
  deriving DecidableEq, Repr

def rule : Text := List.replicate 60 '='

def Header.lines (h : Header) (start : Stamp) : List Text :=
  [rule,
   h.engineName ++ lit " retry start",
   rule,
   lit "from: " ++ h.origin,
   lit "to:   " ++ h.destination,
   lit "timeout: " ++ (match h.timeout with
     | some t => Numeral.written t.minutes ++ lit " min"
     | none => lit "off (single pass)"),
   lit "interval: " ++ Numeral.written h.interval.seconds ++ lit " s",
   lit "targets: " ++ Numeral.written h.targets,
   lit "start: " ++ start.written,
   rule]

def Journal.header (start : Stamp) (h : Header) (j : Journal) : Except FileFault Unit × Journal :=
  j.rawAll (h.lines start)

end BookingRetry.Log
