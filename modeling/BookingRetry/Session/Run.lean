import BookingRetry.CommandLine.Request
import BookingRetry.Program.Launch
import BookingRetry.Run.Step
import BookingRetry.Session.Basic

/-!
The program asked to try candidates. What can be refused is looked at before the first attempt, in
order: the configuration, the log file, the candidates, the choice among them, and the booking
command. From the log file on, a refusal is written to the log like any other outcome. All that is
written to the log is shown on the output as well, after a line that tells where the log is and
before a stanza that tells how the run ended.
-/
namespace BookingRetry

inductive PreflightFault where
  | failure (f : Failure)
  | programMissing (program : Text) (f : Program.SearchFault)
  deriving DecidableEq, Repr

def PreflightFault.reason : PreflightFault → Text
  | failure f => f.message
  | programMissing program f =>
    lit "reservation command " ++ program ++ lit " not found: " ++ f.message

structure Prepared where
  origin : Text
  destination : Text
  candidates : List Candidate
  booking : Booking

structure OpenLog where
  path : Text
  place : Place
  sink : Log.Sink
  tree : Tree

def OpenLog.host (log : OpenLog) (h : Host) : Host := { h with tree := log.tree }

namespace Booking

/-- How a booking command takes part in a run: it is told the number of the attempt, and takes no
time on the clock. -/
def callBy (launch : Host → Program.Call → Except FileFault Program.Finish) (b : Booking) (h : Host)
    (earlier : Nat) (_ : Span) (c : Candidate) : Run.Reply :=
  match b.start launch h c (earlier + 1) with
  | .ok r => { answer := r.answer, cancels := r.interrupts }
  | .error f => { answer := .failed (launchFailure b.program f) }

def call (b : Booking) (h : Host) : Nat → Span → Candidate → Run.Reply :=
  b.callBy (fun h => Program.launch h Program.nesting) h

end Booking

inductive LogFault where
  | unresolved (path : Text)
  | failure (f : Failure)
  deriving DecidableEq, Repr

def LogFault.account : LogFault → Text
  | unresolved path =>
    lit "cannot resolve log path " ++ path ++ lit ": cannot make an empty path absolute"
  | failure f => f.account

namespace RunRequest

def derivedName (now : Stamp) : Text := lit "retry_" ++ now.compact ++ lit ".log"

def namedLog (r : RunRequest) (c : EngineConfig) (h : Host) (now : Stamp) : Text :=
  r.logFile.getD (Path.join (c.logDir h) (derivedName now))

def openLog (r : RunRequest) (c : EngineConfig) (h : Host) (now : Stamp) :
    Except LogFault OpenLog :=
  match Path.absolute? h.cwd (r.namedLog c h now) with
  | none => .error (.unresolved (r.namedLog c h now))
  | some path =>
    match h.tree.openLog h.now h.cwd path with
    | .error f => .error (.failure (.logCreate path f))
    | .ok (tree, place, content) =>
      .ok { path, place, sink := { bytes := content, limit := h.largestFile }, tree }

def prepare (r : RunRequest) (h : Host) : Except PreflightFault Prepared :=
  match CandidateSet.load h r.candidates with
  | .error f => .error (.failure f)
  | .ok set =>
    match (Selection.read? (r.targets.getD [])).bind (Selection.choose set.candidates) with
    | .error f => .error (.failure (.selection f))
    | .ok candidates =>
      match Program.locate h r.program with
      | .error f => .error (.programMissing r.program f)
      | .ok program =>
        .ok
          { origin := set.origin
            destination := set.destination
            candidates
            booking := ⟨program, r.arguments⟩ }

def budget (minutes : Nat) : Span := .ofSeconds (min (minutes * 60) Numeral.maxWord)

def settings (r : RunRequest) (c : EngineConfig) (p : Prepared) : RunSettings where
  retry := r.retry
  timeout := budget r.timeoutMinutes
  wait := .ofSeconds r.waitSeconds
  minInterval := (r.minIntervalMs.map Span.ofMillis).getD c.minInterval
  summaryEvery := c.summaryEvery
  engineName := c.engineName
  origin := p.origin
  destination := p.destination

def plan (r : RunRequest) (c : EngineConfig) (p : Prepared) : Run.Plan where
  settings := r.settings c p
  markers := c.markers
  candidates := p.candidates

/-- Where a run starts: with its log, which the output mirrors. -/
def scene (log : OpenLog) : Run.Scene :=
  { journal := { sink := log.sink, mirror := some {} } }

def pathLine (log : OpenLog) : Text := lit "LOG_FILE: " ++ log.path

def shown (log : OpenLog) (s : Run.Scene) (stanza : List Text) : Bytes :=
  Session.lines (pathLine log :: ((s.journal.mirror.map Log.Mirror.shown).getD []) ++ stanza)

def filesAfter (log : OpenLog) (s : Run.Scene) : Tree :=
  log.tree.fill log.place s.journal.sink.bytes

def concluded (log : OpenLog) (o : Outcome) (s : Run.Scene) : Session :=
  { output := shown log s [o.stanza]
    exitCode := o.exitCode
    tree := filesAfter log s
    calls := s.calls }

def refused (log : OpenLog) (w : Run.World) (f : PreflightFault) : Session :=
  let failed (e : FileFault) (s : Run.Scene) : Session :=
    Session.stopped (shown log s []) (filesAfter log s) (Failure.logWrite e).account
  let o : Outcome := .fatalInput 0 f.reason
  match (scene log).record w .crit (Run.preflightMessage f.reason) with
  | (.error e, s) => failed e s
  | (.ok (), s) =>
    match Run.Plan.conclude w o s with
    | (.error e, s) => failed e s
    | (.ok (), s) => concluded log o s

def internalErrorMessage (f : Failure) : Text := lit "internal error: " ++ f.message

/-- The end of a run whose log has failed. It is still tried to write that down. -/
def aborted (log : OpenLog) (w : Run.World) (e : FileFault) (s : Run.Scene) : Session :=
  let f := Failure.logWrite e
  let s := (s.record w .crit (internalErrorMessage f)).2
  { Session.stopped (shown log s [faultStanza f.message]) (filesAfter log s)
      (Failure.during (lit "retry run aborted") f).account with
    calls := s.calls }

def ended? (log : OpenLog) (w : Run.World) (st : Run.State) : Option Session :=
  match st.phase with
  | .finished r => some (concluded log r.outcome st.scene)
  | .failed e => some (aborted log w e st.scene)
  | _ => none

inductive Opening where
  | settled (s : Session)
  | ready (log : OpenLog) (plan : Run.Plan) (booking : Booking)

def opening (r : RunRequest) (h : Host) (now : Stamp) (w : Run.World) : Opening :=
  match EngineConfig.loadFrom h r.config with
  | .error f => .settled (Session.stopped [] h.tree (Failure.config f).message)
  | .ok c =>
    match r.openLog c h now with
    | .error f => .settled (Session.stopped [] h.tree f.account)
    | .ok log =>
      match r.prepare (log.host h) with
      | .error f => .settled (refused log w f)
      | .ok p => .ready log (r.plan c p) p.booking

/-- The program from its start to its end, or to the end of so many steps. The vendor is told which
booking command has been found. -/
def session? (r : RunRequest) (h : Host) (now : Stamp) (w : Run.World)
    (vendor : Booking → Nat → Span → Candidate → Run.Reply) (steps : Nat) : Option Session :=
  match r.opening h now w with
  | .settled s => some s
  | .ready log plan booking =>
    let w := { w with call := vendor booking }
    ended? log w (plan.run w steps (scene log))

end RunRequest

end BookingRetry
