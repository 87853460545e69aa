import BookingRetry.Files.Tree
import BookingRetry.Booking
import BookingRetry.Shell.Format

/-!
Programs that are known by what they do. Each is installed as a file whose content says which
program it is.
-/
namespace BookingRetry.Program

inductive Tool where
  | shell
  | succeed
  | fail
  | echo
  | print
  | copy
  | environment
  | pause
  deriving DecidableEq, Repr

namespace Tool

def all : List Tool := [shell, succeed, fail, echo, print, copy, environment, pause]

def name : Tool → Text
  | shell => lit "sh"
  | succeed => lit "true"
  | fail => lit "false"
  | echo => lit "echo"
  | print => lit "printf"
  | copy => lit "cat"
  | environment => lit "env"
  | pause => lit "sleep"

def image (t : Tool) : Bytes := 127 :: Utf8.encode (lit "ELF " ++ t.name)

def home : Place := [lit "usr", lit "bin"]

def install (t : Tree) : Tree :=
  let t := (t.put (home.take 1) .directory).put home .directory
  let t := t.put [lit "bin"] (.link (lit "/usr/bin"))
  all.foldl (fun t p => t.put (home ++ [p.name]) (.file p.image 0o755 0)) t

def ofImage? (content : Bytes) : Option Tool := all.find? fun t => t.image = content

def echoWords (words : List Text) : List Text × Bool :=
  match words with
  | w :: rest => if w = lit "-n" then (rest, false) else (w :: rest, true)
  | [] => ([], true)

def finish (t : Tool) (files : Text → Except FileFault Bytes) (c : Call) : Finish :=
  match t with
  | shell => {}
  | succeed => {}
  | pause => {}
  | fail => { ending := .code 1 }
  | echo =>
    let (words, newline) := echoWords c.arguments
    { output := Utf8.encode (Text.joined [' '] words ++ if newline then ['\n'] else []) }
  | print =>
    match c.arguments with
    | [] =>
      { complaints := Utf8.encode (c.name ++ lit ": missing operand\nTry '" ++ c.name ++
          lit " --help' for more information.\n")
        ending := .code 1 }
    | format :: rest =>
      let p := Shell.printed format rest
      { output := p.bytes
        complaints := Utf8.encode (p.complaints.flatMap fun m => c.name ++ lit ": " ++ m ++ ['\n'])
        ending := .code (if p.complaints.isEmpty then 0 else 1) }
  | copy =>
    if c.arguments.isEmpty then { output := c.input }
    else c.arguments.foldl (fun r path =>
      if path = ['-'] then { r with output := r.output ++ c.input }
      else match files path with
        | .ok bs => { r with output := r.output ++ bs }
        | .error f =>
          let words := match Text.cut? (lit " (os error") f.message with
            | some (words, _) => words
            | none => f.message
          { r with
            complaints := r.complaints ++
              Utf8.encode (c.name ++ lit ": " ++ path ++ lit ": " ++ words ++ ['\n'])
            ending := .code 1 }) ({} : Finish)
  | environment =>
    { output := Utf8.encode (c.environment.flatMap fun v => v.1 ++ '=' :: v.2 ++ ['\n']) }

end Tool

end BookingRetry.Program
