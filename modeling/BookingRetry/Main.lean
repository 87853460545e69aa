import BookingRetry.CommandLine.Help
import BookingRetry.Session.Run
import BookingRetry.Session.Tail

/-!
The program on a real machine. What it does is told by sessions and by the steps of a run; here
files are read and written, the waits of a run take their time, and lines appear as they come.
-/
namespace BookingRetry.Main

def variableNames : List String :=
  ["HOME", "PATH", "TMPDIR", "XDG_CONFIG_HOME", "SEATCLAIM_ENGINE_NAME", "SEATCLAIM_DATA_DIR",
   "SEATCLAIM_MIN_INTERVAL_MS", "SEATCLAIM_SUMMARY_EVERY", "SEATCLAIM_MARKERS__UNAVAILABLE",
   "SEATCLAIM_MARKERS__INPUT"]

def readVariables (names : List String) : IO (List (Text × Text)) := do
  let values ← names.mapM fun n => return (n, ← IO.getEnv n)
  return values.filterMap fun v => v.2.map fun value => (lit v.1, lit value)

def numberAfter (word t : Text) : Nat :=
  match Text.cut? word t with
  | some (_, rest) => Numeral.value ((rest.dropWhile (· = ' ')).takeWhile Numeral.isDigit)
  | none => 0

def readClock : IO Int := do
  try
    let started ← IO.FS.readFile "/proc/stat"
    let since ← IO.FS.readFile "/proc/uptime"
    return (numberAfter (lit "btime") (lit started) + numberAfter [] (lit since) : Nat)
  catch _ => return 0

def readBytes? (path : Text) : IO (Option Bytes) := do
  try
    return some (← IO.FS.readBinFile (String.ofList path)).toList
  catch _ => return none

def load (h : Host) (path : Text) : IO Host := do
  let full := Path.absolute h.cwd path
  match ← readBytes? full with
  | none => return h
  | some content =>
    match h.tree.openLog h.now [] full with
    | .ok (tree, place, _) => return { h with tree := tree.put place (.file content 0o755 h.now) }
    | .error _ => return h

def readHost (paths : List Text) : IO Host := do
  let here := (toString (← IO.currentDir)).toList
  let h : Host :=
    { tree := Program.Tool.install {}
      cwd := Path.names here
      environment := ← readVariables variableNames
      now := ← readClock }
  let tree := (List.range h.cwd.length).foldl
    (fun (t : Tree) n => t.put (h.cwd.take (n + 1)) .directory) h.tree
  let h := { h with tree }
  (paths ++ EngineConfig.standardPaths h).foldlM load h

def writeBytes (out : IO.FS.Stream) (bs : Bytes) : IO Unit := do
  out.write (ByteArray.mk bs.toArray)
  out.flush

def finish (s : Session) : IO UInt32 := do
  writeBytes (← IO.getStdout) s.output
  (← IO.getStderr).putStr (String.ofList s.complaints)
  return s.exitCode.toUInt32

def addToLog (path : Text) (bs : Bytes) : IO Unit := do
  match Tree.parent? path with
  | some up => IO.FS.createDirAll (String.ofList up)
  | none => pure ()
  let file ← IO.FS.Handle.mk (String.ofList path) .append
  IO.setAccessRights (String.ofList path) { user := { read := true, write := true } }
  file.write (ByteArray.mk bs.toArray)
  file.flush

/-- The steps of a run, each wait taking its time. What is written appears at once. -/
partial def follow (plan : Run.Plan) (w : Run.World) (log : OpenLog) (told : Nat) (st : Run.State) :
    IO Run.State := do
  let sink := st.scene.journal.sink
  let shown := RunRequest.shown log st.scene []
  writeBytes (← IO.getStdout) (shown.drop told)
  addToLog log.path (sink.bytes.drop log.sink.bytes.length)
  let log' := { log with sink }
  match st.phase with
  | .finished _ => return st
  | .failed _ => return st
  | .going (.waiting d) _ => IO.sleep (d.seconds * 1000 + d.subsecond / 1000000).toUInt32
  | _ => pure ()
  let now ← readClock
  follow plan w log' shown.length (plan.step { w with stamp := fun _ => .ofSeconds now } st)

def run (r : RunRequest) : IO UInt32 := do
  let h ← readHost ([r.candidates, r.program] ++ r.config.toList)
  let h ← r.logFile.toList.foldlM load h
  let now := Stamp.ofSeconds h.now
  let w : Run.World :=
    { call := fun _ _ _ => { answer := .failed [] }
      sleep := fun _ _ d => { passed := d }
      stamp := fun _ => now }
  match r.opening h now w with
  | .settled s =>
    match EngineConfig.loadFrom h r.config with
    | .ok c =>
      let path := Path.absolute h.cwd (r.namedLog c h now)
      match s.tree.read [] path with
      | .ok content => addToLog path (content.drop ((h.read path).toOption.getD []).length)
      | .error _ => pure ()
    | .error _ => pure ()
    finish s
  | .ready log plan booking =>
    let w := { w with call := booking.call (log.host h) }
    let st ← follow plan w log 0 (plan.start w (RunRequest.scene log))
    match RunRequest.ended? log w st with
    | some s =>
      let told := (RunRequest.shown log st.scene []).length
      finish { s with output := s.output.drop told }
    | none => return 0

partial def watch (path : Text) (pollMs : Nat) (f : Follow) : IO (Option FinalState) := do
  match ← readBytes? path with
  | none => return none
  | some content =>
    let p := f.poll content
    writeBytes (← IO.getStdout) p.shown
    match p.finalState with
    | some s => return some s
    | none =>
      IO.sleep pollMs.toUInt32
      watch path pollMs p.next

def tail (r : TailRequest) : IO UInt32 := do
  let h ← readHost (r.path.toList ++ r.config.toList)
  match r.logPath h with
  | .error f => finish (Session.stopped [] h.tree f.account)
  | .ok path =>
    let v := TailRequest.quietView h path
    let code ← finish ({ r with follow := false }.shown h.tree path v)
    match v.content with
    | .ok content =>
      if r.follow && (TailReport.ofBytes r.lines content).finalState = none then
        match ← watch (Path.absolute h.cwd path) r.pollMs { offset := content.length } with
        | some s => writeBytes (← IO.getStdout) (Session.line s.statusLine)
        | none => pure ()
    | .error _ => pure ()
    return code

end BookingRetry.Main

open BookingRetry in
def main (words : List String) : IO UInt32 := do
  let words := words.map lit
  match Request.ofWords words with
  | .error f => Main.finish (CommandLine.refused words f {})
  | .ok (.run r) => Main.run r
  | .ok (.tail r) => Main.tail r
