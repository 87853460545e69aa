import BookingRetry.CommandLine.Request
import BookingRetry.Observer
import BookingRetry.Session.Basic

/-!
The program asked to show the end of a log. Following, it goes on from where the log ends once it
has been shown, until the run is over or the program is interrupted. In between another program may
be writing to the log, so each look at it is told by what it finds.
-/
namespace BookingRetry

/-- What is found in a log at one look after another. -/
structure TailView where
  content : Except FileFault Bytes
  size : Except FileFault Nat
  polls : List Follow.Moment := []

def latestAmong (directory : Text) (entries : List Entry) : Except Failure Text :=
  match Entry.newestLog? entries with
  | none => .error (.noLogFound directory)
  | some e => .ok (Path.join directory e.name)

def Host.latestLog (h : Host) (directory : Text) : Except Failure Text :=
  match h.tree.entries h.cwd directory with
  | .error _ => .error (.noLogFound directory)
  | .ok entries => latestAmong directory entries

namespace TailRequest

def logPath (r : TailRequest) (h : Host) : Except Failure Text :=
  match r.path with
  | some path => .ok path
  | none =>
    match EngineConfig.loadFrom h r.config with
    | .error f => .error (.config f)
    | .ok c => h.latestLog (c.logDir h)

def quietView (h : Host) (path : Text) : TailView :=
  { content := h.read path, size := (h.read path).map List.length }

def readingWords (path : Text) : Text := lit "cannot read log " ++ path

def shownLines (path : Text) (report : TailReport) : List Text :=
  (lit "log: " ++ path) :: report.lines

def shown (r : TailRequest) (tree : Tree) (path : Text) (v : TailView) : Session :=
  match v.content with
  | .error e =>
    Session.stopped [] tree (Failure.during (readingWords path) (.io e)).account
  | .ok content =>
    let report := TailReport.ofBytes r.lines content
    let output := Session.lines (shownLines path report)
    if r.follow && report.finalState = none then
      match v.size with
      | .error e => Session.stopped output tree (Failure.io e).account
      | .ok size =>
        let f := Follow.polls v.polls { offset := size }
        let output := output ++ f.1.flatten
        match f.2 with
        | .error e => Session.stopped output tree (Failure.io e).account
        | .ok (some s) => { output := output ++ Session.line s.statusLine, exitCode := 0, tree }
        | .ok none => { output, exitCode := 0, tree }
    else { output, exitCode := 0, tree }

def session (r : TailRequest) (h : Host) (view : Text → TailView) : Session :=
  match r.logPath h with
  | .error f => Session.stopped [] h.tree f.account
  | .ok path => r.shown h.tree path (view path)

end TailRequest

end BookingRetry
