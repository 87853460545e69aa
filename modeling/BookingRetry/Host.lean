import BookingRetry.Files.Tree

/-!
Where a program runs: its files and what they may take, the directory it was started in, and its
environment; and where it finds the file of another program. A name without a separator is looked
for in the directories of the search path, in order.
-/
namespace BookingRetry

structure Host where
  tree : Tree
  cwd : Place
  environment : List (Text × Text)
  largestFile : Option Nat := none
  now : Int := 0

namespace Host

def value? (h : Host) (name : Text) : Option Text :=
  (h.environment.find? fun v => v.1 = name).map Prod.snd

def read (h : Host) (path : Text) : Except FileFault Bytes := h.tree.read h.cwd path

def pathExists (h : Host) (path : Text) : Bool := (h.tree.lookup h.cwd path).isOk

def rootHome : Text := lit "/root"

def home (h : Host) : Text :=
  match h.value? (lit "HOME") with
  | some p => if p.isEmpty then rootHome else p
  | none => rootHome

/-- Where programs keep their settings. A directory that is named by a relative path is not used. -/
def configHome (h : Host) : Text :=
  match h.value? (lit "XDG_CONFIG_HOME") with
  | some p => if Path.isAbsolute p then p else Path.join h.home (lit ".config")
  | none => Path.join h.home (lit ".config")

def scratch (h : Host) : Text := (h.value? (lit "TMPDIR")).getD (lit "/tmp")

end Host

end BookingRetry

namespace BookingRetry.Program

def pathVariable : Text := lit "PATH"

def usualPath : Text := lit "/bin:/usr/bin"

def execBits : Nat := 0o111

def isRunnable (h : Host) (path : Text) : Bool :=
  match h.tree.lookup h.cwd path with
  | .ok (_, .file _ mode _) => mode &&& execBits ≠ 0
  | _ => false

def hasSeparator (name : Text) : Bool := name.contains '/'

def searched (path name : Text) : List Text :=
  (Text.pieces ':' path).map fun d => if d.isEmpty then name else Path.join d name

def find (h : Host) (environment : List (Text × Text)) (name : Text) : Except FileFault Text :=
  if hasSeparator name then .ok name
  else if name.isEmpty then .error .notFound
  else
    let path := ((environment.find? fun v => v.1 = pathVariable).map Prod.snd).getD usualPath
    let files := searched path name
    match files.find? (isRunnable h) with
    | some f => .ok f
    | none => .error (if files.any (h.tree.hasFile h.cwd) then .permissionDenied else .notFound)

inductive SearchFault where
  | notFound
  | noSearchPath
  deriving DecidableEq, Repr

def SearchFault.message : SearchFault → Text
  | notFound => lit "cannot find binary path"
  | noSearchPath => lit "no path to search and provided name is not an absolute path"

/-- Of how many parts a name consists: the root, the directory itself if the name starts there, and
the names in it. -/
def partCount (name : Text) : Nat :=
  (if Path.isAbsolute name || (Text.pieces '/' name).head? = some Tree.dot then 1 else 0) +
    (Path.names name).length

/-- The path from the root of the program that a name means. A name of several parts is a path; one
of a single part is looked for. -/
def locate (h : Host) (name : Text) : Except SearchFault Text :=
  let chosen (files : List Text) : Except SearchFault Text :=
    match files.find? (isRunnable h) with
    | some f => .ok f
    | none => .error .notFound
  if 1 < partCount name then
    chosen [if Path.isAbsolute name then name else Path.ofPlace (h.cwd ++ Path.names name)]
  else
    match (h.value? pathVariable).filter fun p => !p.isEmpty with
    | none => .error .noSearchPath
    | some path => chosen ((Text.pieces ':' path).map fun d => Path.join d name)

end BookingRetry.Program
