import BookingRetry.Files.Basic
import BookingRetry.Outcome
import BookingRetry.Text.Utf8

/-!
The end of a log, and whether its run is over: the last marker in the log counts, whether or not it
is among the lines that are shown. Following a log that grows, each poll takes what has been added
since the last one, shows the lines that are complete by now, and ends at the first marker. A line
that is not complete is held back as bytes, so it does not matter where the additions are cut.
-/
namespace BookingRetry

structure TailReport where
  total : Nat
  shown : List Text
  finalState : Option FinalState
  deriving DecidableEq, Repr

def defaultTailLines : Nat := 20

def FinalState.statusLine (s : FinalState) : Text :=
  lit "status: finished (" ++ s.state ++ lit ", attempts=" ++ Numeral.written s.attempts ++ lit ")"

namespace TailReport

def lastState? (lines : List Text) : Option FinalState := lines.reverse.findSome? FinalState.ofLine?

def ofBytes (n : Nat) (content : Bytes) : TailReport :=
  let all := Text.lines (Utf8.decodeLossy content)
  { total := all.length, shown := all.drop (all.length - n), finalState := lastState? all }

def statusLine (r : TailReport) : Text :=
  match r.finalState with
  | some s => s.statusLine
  | none => lit "status: running (no FINAL marker yet)"

def trailer (r : TailReport) : Text :=
  lit "--- total " ++ Numeral.written r.total ++ lit " lines, showing last " ++
    Numeral.written r.shown.length ++ lit " ---"

def lines (r : TailReport) : List Text := r.shown ++ [r.statusLine, r.trailer]

end TailReport

structure Follow where
  offset : Nat
  pending : Bytes := []
  deriving DecidableEq, Repr

structure Poll where
  shown : Bytes
  finalState : Option FinalState
  next : Follow
  deriving DecidableEq, Repr

namespace Follow

def lineFeed : UInt8 := 10

def cutLine? : Bytes → Option (Bytes × Bytes)
  | [] => none
  | b :: bs =>
    if b = lineFeed then some ([b], bs)
    else (cutLine? bs).map fun parts => (b :: parts.1, parts.2)

def stateOfLine? (line : Bytes) : Option FinalState :=
  FinalState.ofLine? (Text.trimEnd (Utf8.decodeLossy line))

/-- Takes complete lines off the front, up to one that states the end: what was taken, that
state, and the bytes that are left. -/
def takeLines : Nat → Bytes → Bytes × Option FinalState × Bytes
  | 0, bs => ([], none, bs)
  | room + 1, bs =>
    match cutLine? bs with
    | none => ([], none, bs)
    | some (line, rest) =>
      match stateOfLine? line with
      | some s => (line, some s, rest)
      | none =>
        let r := takeLines room rest
        (line ++ r.1, r.2)

/-- One poll of a file that holds `content`. Behind its end there is nothing to take. -/
def poll (content : Bytes) (f : Follow) : Poll :=
  let fresh := content.drop f.offset
  let waiting := f.pending ++ fresh
  let r := takeLines waiting.length waiting
  { shown := r.1, finalState := r.2.1, next := ⟨f.offset + fresh.length, r.2.2⟩ }

structure Moment where
  content : Except FileFault Bytes
  output : Except FileFault Unit := .ok ()
  cancelled : Bool := false

def polls : List Moment → Follow → List Bytes × Except FileFault (Option FinalState)
  | [], _ => ([], .ok none)
  | m :: ms, f =>
    match m.content with
    | .error e => ([], .error e)
    | .ok content =>
      let p := f.poll content
      match m.output, p.finalState with
      | .error e, _ => ([p.shown], .error e)
      | .ok (), some s => ([p.shown], .ok (some s))
      | .ok (), none =>
        if m.cancelled then ([p.shown], .ok none)
        else
          let r := polls ms p.next
          (p.shown :: r.1, r.2)

def furthest : Nat := Nat.pow 2 63 - 1

/-- Polls from a place in the file on. If that is further than any file goes, the first poll that
finds the file fails. -/
def pollsFrom (offset : Nat) (ms : List Moment) :
    List Bytes × Except FileFault (Option FinalState) :=
  match ms with
  | ⟨.ok _, _, _⟩ :: _ =>
    if furthest < offset then ([], .error .invalidArgument) else polls ms { offset }
  | _ => polls ms { offset }

end Follow

end BookingRetry
