import BookingRetry.Text.Basic

/-!
What can go wrong with files and streams, in the system's words; names of files and their
extensions; and the newest log of a directory: of the plain files directly in it whose extension is
`log`, the one modified last.
-/
namespace BookingRetry

inductive FileFault where
  | notFound
  | alreadyExists
  | notDirectory
  | isDirectory
  | permissionDenied
  | tooLarge
  | nameTooLong
  | linkLoop
  | notText
  | nullByte
  | nullInPath
  | invalidArgument
  | execFormat
  | other (words : Text)
  deriving DecidableEq, Repr

def FileFault.message : FileFault → Text
  | notFound => lit "No such file or directory (os error 2)"
  | alreadyExists => lit "File exists (os error 17)"
  | notDirectory => lit "Not a directory (os error 20)"
  | isDirectory => lit "Is a directory (os error 21)"
  | permissionDenied => lit "Permission denied (os error 13)"
  | tooLarge => lit "File too large (os error 27)"
  | nameTooLong => lit "File name too long (os error 36)"
  | linkLoop => lit "Too many levels of symbolic links (os error 40)"
  | notText => lit "stream did not contain valid UTF-8"
  | nullByte => lit "nul byte found in provided data"
  | nullInPath => lit "file name contained an unexpected NUL byte"
  | invalidArgument => lit "Invalid argument (os error 22)"
  | execFormat => lit "Exec format error (os error 8)"
  | other words => words

end BookingRetry

namespace BookingRetry.Name

def upward : Text := ['.', '.']

def extension? (name : Text) : Option Text :=
  let r := name.reverse
  let ending := r.takeWhile fun c => c ≠ '.'
  match r.dropWhile fun c => c ≠ '.' with
  | '.' :: stem => if stem.isEmpty || name = upward then none else some ending.reverse
  | _ => none

end BookingRetry.Name

namespace BookingRetry

structure Entry where
  name : Text
  isPlainFile : Bool
  modified : Int
  deriving DecidableEq, Repr

namespace Entry

def logExtension : Text := lit "log"

def isLog (e : Entry) : Bool := e.isPlainFile && Name.extension? e.name = some logExtension

/-- The newer of two entries, the first one if they are equally old. -/
def newer (best : Option Entry) (e : Entry) : Option Entry :=
  match best with
  | none => some e
  | some b => if b.modified < e.modified then some e else some b

def newestLog? (entries : List Entry) : Option Entry :=
  (entries.filter isLog).foldl newer none

end Entry

end BookingRetry
