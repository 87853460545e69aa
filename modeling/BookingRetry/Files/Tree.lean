import BookingRetry.Files.Basic
import BookingRetry.Text.Utf8

/-!
A tree of files, and how a path is followed in it. Directories are named by the list of names that
leads to them from the root. A path is followed name by name: a link is replaced by its target, and
only so many links are followed. A process that runs here may do everything, so permissions stop it
only where a file is to be run as a program.
-/
namespace BookingRetry

abbrev Place := List Text

inductive Node where
  | directory
  | file (content : Bytes) (mode : Nat) (modified : Int)
  | link (target : Text)

structure Tree where
  nodes : List (Place × Node) := []

namespace Tree

def node? (t : Tree) (p : Place) : Option Node :=
  match p with
  | [] => some .directory
  | _ => (t.nodes.find? fun e => e.1 = p).map Prod.snd

def put (t : Tree) (p : Place) (n : Node) : Tree :=
  if t.nodes.any fun e => e.1 = p then
    { nodes := t.nodes.map fun e => if e.1 = p then (p, n) else e }
  else { nodes := t.nodes ++ [(p, n)] }

def children (t : Tree) (p : Place) : List (Text × Node) :=
  t.nodes.filterMap fun e =>
    match e.1.reverse with
    | [] => none
    | name :: parent => if parent.reverse = p then some (name, e.2) else none

inductive Target where
  | found (p : Place) (n : Node)
  | missing (p : Place)

def dot : Text := ['.']

def dots : Text := ['.', '.']

def maxName : Nat := 255

def maxPath : Nat := 4095

def maxLinks : Nat := 40

def isTrailing (names : List Text) : Bool := names.all List.isEmpty

/-- Follows names from a directory. The last name may be a link, which is followed if asked to. -/
def follow (t : Tree) (last : Bool) : Nat → Nat → Place → List Text → Except FileFault Target
  | 0, _, _, _ => .error .linkLoop
  | _ + 1, _, here, [] => .ok (.found here .directory)
  | room + 1, links, here, name :: names =>
    if name.isEmpty || name = dot then t.follow last room links here names
    else if name = dots then t.follow last room links here.dropLast names
    else if maxName < (Utf8.encode name).length then .error .nameTooLong
    else
      let place := here ++ [name]
      match t.node? place with
      | none =>
        if names.isEmpty then .ok (.missing place)
        else if isTrailing names then .error .isDirectory
        else .error .notFound
      | some .directory => t.follow last room links place names
      | some (.file content mode modified) =>
        if names.isEmpty then .ok (.found place (.file content mode modified))
        else .error .notDirectory
      | some (.link target) =>
        if names.isEmpty && !last then .ok (.found place (.link target))
        else match links with
          | 0 => .error .linkLoop
          | links + 1 =>
            let start := if target.head? = some '/' then [] else here
            t.follow last room links start (Text.pieces '/' target ++ names)

def patience (t : Tree) (path : Text) : Nat :=
  let longest := t.nodes.foldl (fun n e => match e.2 with
    | .link target => max n (target.length + 2)
    | _ => n) 0
  path.length + 2 + (maxLinks + 1) * longest

def locate (t : Tree) (last : Bool) (cwd : Place) (path : Text) : Except FileFault Target :=
  if path.isEmpty then .error .notFound
  else if path.contains '\x00' then .error .nullInPath
  else if maxPath < (Utf8.encode path).length then .error .nameTooLong
  else t.follow last (t.patience path) maxLinks (if path.head? = some '/' then [] else cwd)
    (Text.pieces '/' path)

/-- A name that is followed by separators has to be a directory to be there at all. -/
def missingIsNotFound : Except FileFault Target → Except FileFault (Place × Node)
  | .ok (.found p n) => .ok (p, n)
  | .ok (.missing _) => .error .notFound
  | .error .isDirectory => .error .notFound
  | .error f => .error f

def lookup (t : Tree) (cwd : Place) (path : Text) : Except FileFault (Place × Node) :=
  missingIsNotFound (t.locate true cwd path)

def read (t : Tree) (cwd : Place) (path : Text) : Except FileFault Bytes :=
  match t.lookup cwd path with
  | .ok (_, .file content _ _) => .ok content
  | .ok (_, .directory) => .error .isDirectory
  | .ok (_, .link _) => .error .linkLoop
  | .error f => .error f

def hasFile (t : Tree) (cwd : Place) (path : Text) : Bool := (t.read cwd path).isOk

def hasDirectory (t : Tree) (cwd : Place) (path : Text) : Bool :=
  match t.lookup cwd path with
  | .ok (_, .directory) => true
  | _ => false

def entries (t : Tree) (cwd : Place) (path : Text) : Except FileFault (List Entry) :=
  match t.lookup cwd path with
  | .ok (p, .directory) => .ok ((t.children p).map fun c =>
      match c.2 with
      | .file _ _ modified => ⟨c.1, true, modified⟩
      | _ => ⟨c.1, false, 0⟩)
  | .ok _ => .error .notDirectory
  | .error f => .error f

def makeDirectory (t : Tree) (cwd : Place) (path : Text) : Except FileFault Tree :=
  let path := (path.reverse.dropWhile fun c => c = '/').reverse
  match t.locate false cwd (if path.isEmpty then ['/'] else path) with
  | .ok (.missing p) => .ok (t.put p .directory)
  | .ok (.found ..) => .error .alreadyExists
  | .error f => .error f

def parent? (path : Text) : Option Text :=
  let trimmed (p : Text) : Text := (p.reverse.dropWhile fun c => c = '/').reverse
  let path' := trimmed path
  if path'.isEmpty then none
  else
    let front := (path'.reverse.dropWhile fun c => c != '/').reverse
    if front.isEmpty then some []
    else
      let front' := trimmed front
      some (if front'.isEmpty then ['/'] else front')

def makeDirectories (cwd : Place) : Nat → Text → Tree → Except FileFault Tree
  | 0, _, _ => .error .notFound
  | room + 1, path, t =>
    if path.isEmpty then .ok t
    else
      let settle (t : Tree) (r : Except FileFault Tree) : Except FileFault Tree :=
        match r with
        | .ok t => .ok t
        | .error f => if t.hasDirectory cwd path then .ok t else .error f
      match t.makeDirectory cwd path with
      | .error .notFound =>
        match parent? path with
        | none => .error .notFound
        | some up =>
          match makeDirectories cwd room up t with
          | .error f => .error f
          | .ok t => settle t (t.makeDirectory cwd path)
      | r => settle t r

def ownerOnly : Nat := 0o600

/-- Opens a file for adding to it and makes it private to its owner. It is created if it is not
there, and so are the directories above it. -/
def openLog (t : Tree) (now : Int) (cwd : Place) (path : Text) :
    Except FileFault (Tree × Place × Bytes) :=
  let prepared : Except FileFault Tree := match parent? path with
    | none => .ok t
    | some up => makeDirectories cwd (up.length + 1) up t
  match prepared with
  | .error f => .error f
  | .ok t =>
    match t.locate true cwd path with
    | .ok (.missing p) => .ok (t.put p (.file [] ownerOnly now), p, [])
    | .ok (.found p (.file content _ modified)) =>
      .ok (t.put p (.file content ownerOnly modified), p, content)
    | .ok (.found ..) => .error .isDirectory
    | .error f => .error f

def mode? (t : Tree) (p : Place) : Option Nat :=
  match t.node? p with
  | some (.file _ mode _) => some mode
  | _ => none

def fill (t : Tree) (p : Place) (content : Bytes) : Tree :=
  match t.node? p with
  | some (.file _ mode modified) => t.put p (.file content mode modified)
  | _ => t

end Tree

end BookingRetry

namespace BookingRetry.Path

def isAbsolute (p : Text) : Bool := p.head? = some '/'

def join (base p : Text) : Text :=
  if isAbsolute p || base.isEmpty then p
  else if base.getLast? = some '/' then base ++ p
  else base ++ '/' :: p

def ofPlace (p : Place) : Text :=
  match p with
  | [] => ['/']
  | _ => p.flatMap fun name => '/' :: name

def names (p : Text) : List Text :=
  (Text.pieces '/' p).filter fun n => !n.isEmpty && n ≠ Tree.dot

/-- Two separators at the front may mean another root than one; three or more mean the root. -/
def hasOtherRoot (p : Text) : Bool :=
  match p with
  | '/' :: '/' :: '/' :: _ => false
  | '/' :: '/' :: _ => true
  | _ => false

/-- A path from the root, seen from a directory if it is relative. Steps upwards stay, and so does
a separator at the end. -/
def absolute (cwd : Place) (p : Text) : Text :=
  let start := if isAbsolute p then [] else cwd
  let path := ofPlace (start ++ names p)
  let path := if p.getLast? = some '/' && path ≠ ['/'] then path ++ ['/'] else path
  if hasOtherRoot p then '/' :: path else path

def absolute? (cwd : Place) (p : Text) : Option Text :=
  if p.isEmpty then none else some (absolute cwd p)

def extension? (p : Text) : Option Text := (names p).getLast?.bind Name.extension?

end BookingRetry.Path
