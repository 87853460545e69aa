import BookingRetry.Clock
import BookingRetry.Candidate
import BookingRetry.Run.Report
import BookingRetry.Run.World

/-!
A run, step by step. Each step writes at most one record, or the lines that open or close the log,
and a run rests in two places only: in a call and in a wait. Cancellation is looked at before the
clock is asked for clearance, before an attempt starts, before a failed one is settled, and on
entering and leaving a wait; a call that has begun is always heard out.
-/
namespace BookingRetry.Run

structure Plan where
  settings : RunSettings := {}
  markers : MarkerSet := .default
  candidates : List Candidate

structure Progress where
  rotation : Rotation Candidate
  pacing : Pacing
  attempts : List Attempt := []
  failures : Tally := []
  /-- The walk moves on right before the attempt that needs it. -/
  moveOn : Bool := false
  startedAt : Span
  deadline : Option Span

inductive Stage where
  | budgeting
  | probing
  | starting
  | calling (startedAt : Span)
  | tallying
  | settling
  | waiting (d : Span)
  | woken
  deriving DecidableEq, Repr

inductive Phase where
  | going (stage : Stage) (p : Progress)
  | closing (outcome : Outcome) (attempts : List Attempt) (wraps : Nat) (startedAt : Span)
  | finished (r : RunReport)
  | failed (f : FileFault)

structure State where
  scene : Scene
  phase : Phase

namespace Progress

def count (p : Progress) : Nat := p.attempts.length

def closing (p : Progress) (o : Outcome) : Phase :=
  .closing o p.attempts p.rotation.wraps p.startedAt

def interrupted (p : Progress) : Phase := p.closing (.interrupted p.count)

end Progress

def noting (w : World) (level : Log.Level) (message : Text) (next : Phase) (s : Scene) : State :=
  match s.record w level message with
  | (.ok (), s) => ⟨s, next⟩
  | (.error f, s) => ⟨s, .failed f⟩

/-- Enters a wait. A wait of no length is over at once. -/
def pausing (d : Span) (p : Progress) (s : Scene) : State :=
  if s.cancelled then ⟨s, p.interrupted⟩
  else if d.isZero then ⟨s, .going .woken p⟩
  else ⟨s, .going (.waiting d) p⟩

def unlessPast (w : World) (p : Progress) (s : Scene) (next : Scene → State) : State :=
  match p.deadline with
  | none => next s
  | some deadline =>
    let s := s.read w
    if s.now < deadline then next s
    else noting w .error (deadlineMessage p.count (s.now.sub p.startedAt))
      (p.closing (.timeout p.count)) s

namespace Plan

def header (plan : Plan) : Log.Header where
  engineName := plan.settings.engineName
  origin := plan.settings.origin
  destination := plan.settings.destination
  timeout := if plan.settings.retry then some plan.settings.timeout else none
  interval := plan.settings.wait
  targets := plan.candidates.length

def start (plan : Plan) (w : World) (s : Scene) : State :=
  let s := s.read w
  match Rotation.ofList? plan.candidates with
  | none =>
    noting w .crit (preflightMessage noCandidates)
      (.closing (.fatalInput 0 noCandidates) [] 0 s.now) s
  | some rotation =>
    let p : Progress :=
      { rotation
        pacing := { minInterval := plan.settings.minInterval }
        startedAt := s.now
        deadline := if plan.settings.retry then some (s.now.add plan.settings.timeout) else none }
    match s.header w plan.header with
    | (.ok (), s) => ⟨s, .going .budgeting p⟩
    | (.error f, s) => ⟨s, .failed f⟩

def budget (w : World) (p : Progress) (s : Scene) : State :=
  match p.deadline with
  | none => ⟨s, .going .probing p⟩
  | some deadline =>
    let s := s.read w
    if s.now < deadline then ⟨s, .going .probing p⟩
    else noting w .error budgetSpentMessage (p.closing (.timeout 0)) s

def moving (w : World) (p : Progress) (s : Scene) : State :=
  if p.moveOn then
    let rotation := p.rotation.next
    let next : Phase := .going .starting { p with rotation, moveOn := false }
    if p.rotation.atLast then
      noting w .info (wrapMessage rotation.size (rotation.wraps + 1)) next s
    else ⟨s, next⟩
  else ⟨s, .going .starting p⟩

def probe (w : World) (p : Progress) (s : Scene) : State :=
  let s := s.read w
  let clearance := p.pacing.check s.now
  if clearance.free then moving w p s else pausing clearance.wait p s

def announce (w : World) (p : Progress) (s : Scene) : State :=
  let r := p.rotation
  match s.record w .info
      (startMessage (p.count + 1) r.current.label (r.index + 1) r.size) with
  | (.ok (), s) =>
    let s := s.read w
    ⟨s, .going (.calling s.now) p⟩
  | (.error f, s) => ⟨s, .failed f⟩

/-- The end of a call: its answer is judged, kept and written down, and only then counted. -/
def answered (plan : Plan) (w : World) (startedAt : Span) (reply : Reply) (p : Progress)
    (s : Scene) : State :=
  let candidate := p.rotation.current
  let number := p.count + 1
  let s := { s with calls := s.calls ++ [(candidate, number)] }
  let s := (s.after reply.latency reply.cancels reply.breaksLog).read w
  let verdict := plan.markers.verdict reply.answer
  let attempt : Attempt :=
    { number, index := p.rotation.index, label := candidate.label, startedAt
      finishedAt := s.now, result := verdict.result }
  let p := { p with pacing := p.pacing.record s.now, attempts := p.attempts ++ [attempt] }
  let next := match verdict with
    | .success detail => p.closing (.success number detail)
    | .fatal _ message => p.closing (.fatalInput number message)
    | .retryable kind _ => .going .tallying { p with failures := p.failures.add kind }
  noting w (resultLevel verdict) (resultMessage number candidate.label verdict) next s

def tally (plan : Plan) (w : World) (p : Progress) (s : Scene) : State :=
  let next : Phase := .going .settling { p with moveOn := true }
  let every := plan.settings.summaryEvery
  if every = 0 ∨ p.count % every ≠ 0 then ⟨s, next⟩
  else
    let s := s.read w
    noting w .info
      (summaryMessage p.count p.failures (s.now.sub p.startedAt)
        (p.deadline.map fun d => d.sub s.now))
      next s

def settle (plan : Plan) (w : World) (p : Progress) (s : Scene) : State :=
  match p.deadline with
  | none =>
    if p.rotation.atLast then
      noting w .error (passFinishedMessage p.rotation.size) (p.closing (.exhausted p.count)) s
    else ⟨s, .going .probing p⟩
  | some _ => unlessPast w p s (pausing plan.settings.wait p)

def slept (d : Span) (nap : Nap) (p : Progress) (s : Scene) : State :=
  let s := { s with sleeps := s.sleeps ++ [d] }
  let s := s.after nap.passed nap.cancels nap.breaksLog
  if nap.cancels then ⟨s, p.interrupted⟩ else ⟨s, .going .woken p⟩

def conclude (w : World) (o : Outcome) (s : Scene) : Except FileFault Unit × Scene :=
  let opening := match o with
    | .interrupted _ => s.record w .warn interruptedMessage
    | _ => (.ok (), s)
  match opening with
  | (.error f, s) => (.error f, s)
  | (.ok (), s) =>
    match s.record w o.level o.marker with
    | (.error f, s) => (.error f, s)
    | (.ok (), s) => s.close

/-- The last step. A log that fails matters, except to a run that was interrupted. -/
def close (w : World) (o : Outcome) (attempts : List Attempt) (wraps : Nat) (startedAt : Span)
    (s : Scene) : State :=
  let report (s : Scene) : State :=
    let s := s.read w
    ⟨s, .finished ⟨o, attempts, wraps, startedAt, s.now⟩⟩
  match conclude w o s, o with
  | (.ok (), s), _ => report s
  | (.error _, s), .interrupted _ => report s
  | (.error f, s), _ => ⟨s, .failed f⟩

def step (plan : Plan) (w : World) (st : State) : State :=
  let s := st.scene
  match st.phase with
  | .going stage p =>
    let unlessCancelled (next : State) : State := if s.cancelled then ⟨s, p.interrupted⟩ else next
    match stage with
    | .budgeting => budget w p s
    | .probing => unlessCancelled (probe w p s)
    | .starting => unlessCancelled (announce w p s)
    | .calling startedAt =>
      plan.answered w startedAt (w.call s.calls.length s.now p.rotation.current) p s
    | .tallying => plan.tally w p s
    | .settling => unlessCancelled (plan.settle w p s)
    | .waiting d => slept d (w.sleep s.sleeps.length s.now d) p s
    | .woken => unlessPast w p s fun s => ⟨s, .going .probing p⟩
  | .closing o attempts wraps startedAt => close w o attempts wraps startedAt s
  | .finished _ => st
  | .failed _ => st

def steps (plan : Plan) (w : World) : Nat → State → State
  | 0, st => st
  | n + 1, st =>
    match st.phase with
    | .finished _ => st
    | .failed _ => st
    | _ => steps plan w n (plan.step w st)

def run (plan : Plan) (w : World) (limit : Nat) (s : Scene) : State :=
  plan.steps w limit (plan.start w s)

end Plan

end BookingRetry.Run
