import BookingRetry.Program.Tool
import BookingRetry.Shell.Run

/-!
Starting a program. Its file is run, if it may be, as one of the known programs or by the
interpreter that its first line names.
-/
namespace BookingRetry.Program

def interpreter? (content : Bytes) : Option (Text × List Text) :=
  match Utf8.decodeLossy (content.takeWhile fun b => b ≠ 10) with
  | '#' :: '!' :: line =>
    let trim (t : Text) : Text := t.dropWhile Shell.isSpace
    let line := (trim (trim line).reverse).reverse
    let rest := trim (line.dropWhile fun c => !Shell.isSpace c)
    if line.isEmpty then none
    else some (line.takeWhile fun c => !Shell.isSpace c, if rest.isEmpty then [] else [rest])
  | _ => none

inductive ShellTask where
  | script (text name : Text) (arguments : List Text)
  | file (path : Text) (arguments : List Text)
  | input
  | scriptMissing
  deriving DecidableEq, Repr

def shellLetters : List Text → Text × List Text
  | [] => ([], [])
  | w :: ws =>
    match w with
    | ['-', '-'] => ([], ws)
    | '-' :: c :: cs =>
      let r := shellLetters ws
      (c :: cs ++ r.1, r.2)
    | _ => ([], w :: ws)

def shellTask (c : Call) : ShellTask :=
  let (letters, rest) := shellLetters c.arguments
  if letters.contains 'c' then
    match rest with
    | [] => .scriptMissing
    | [t] => .script t c.name []
    | t :: name :: arguments => .script t name arguments
  else match rest with
    | [] => .input
    | path :: arguments => .file path arguments

def shellSite (h : Host) (start : Call → Except FileFault Finish) : Shell.Site :=
  { host := h, find := find h, start }

def shellFinish (site : Shell.Site) (c : Call) : Finish :=
  let store := c.environment.reverse.foldl (fun (vs : Shell.Variables) v =>
    v :: vs.filter fun x => x.1 ≠ v.1) []
  let state (name : Text) (arguments : List Text) (input : Bytes) : Shell.State :=
    Shell.setOptions true (shellLetters c.arguments).1
      { name, arguments, store, exported := store.map Prod.fst, input }
  let result (script : Text) (s : Shell.State) : Finish :=
    let r := Shell.runScript site Shell.patienceOfRun {} false script s
    { output := (r.2.streams[0]?.getD []).reverse
      complaints := (r.2.streams[1]?.getD []).reverse
      ending := Shell.endingOf r
      interrupts := r.2.interrupts }
  let refused (message : Text) : Finish :=
    { complaints := Utf8.encode (c.name ++ lit ": 0: " ++ message ++ ['\n']), ending := .code 2 }
  match shellTask c with
  | .script text name arguments => result text (state name arguments c.input)
  | .file path arguments =>
    match site.host.read path with
    | .ok bs => result (Utf8.decodeLossy bs) (state path arguments c.input)
    | .error _ => refused (lit "cannot open " ++ path ++ lit ": No such file")
  | .input => result (Utf8.decodeLossy c.input) (state c.name [] [])
  | .scriptMissing => refused (lit "-c requires an argument")

/-- Starts a program. So many programs may start one another. -/
def launch (h : Host) : Nat → Call → Except FileFault Finish
  | 0, _ => .error .linkLoop
  | room + 1, c =>
    if c.hasNull then .error .nullByte
    else match h.tree.lookup h.cwd c.path with
      | .error f => .error f
      | .ok (_, .file content mode _) =>
        if mode &&& execBits = 0 then .error .permissionDenied
        else match Tool.ofImage? content with
          | some .shell => .ok (shellFinish (shellSite h (launch h room)) c)
          | some t => .ok (t.finish h.read c)
          | none =>
            match interpreter? content with
            | none => .error .execFormat
            | some (path, front) =>
              launch h room
                { c with path, name := path, arguments := front ++ c.path :: c.arguments }
      | .ok _ => .error .permissionDenied

def nesting : Nat := 40

end BookingRetry.Program

namespace BookingRetry

def Booking.answer (b : Booking) (h : Host) (c : Candidate) (attempt : Nat) : Answer :=
  b.answerBy (fun h => Program.launch h Program.nesting) h c attempt

end BookingRetry
