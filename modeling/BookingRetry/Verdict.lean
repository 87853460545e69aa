import BookingRetry.Text.Basic
import BookingRetry.Text.Lowercase

/-!
What a vendor's answer means for a run. An answer is a reservation or a failure told in free text;
the text is searched for markers, regardless of case. A marker of bad input ends the run, even
beside a marker of an exhausted stock; all other failures may be tried again.
-/
namespace BookingRetry

inductive Answer where
  | reserved (detail : Text)
  | failed (message : Text)
  deriving DecidableEq, Repr

inductive FailureKind where
  | unavailable
  | transient
  | input
  deriving DecidableEq, Repr

def FailureKind.name : FailureKind → Text
  | unavailable => lit "unavailable"
  | transient => lit "transient"
  | input => lit "input"

inductive Verdict where
  | success (detail : Text)
  | retryable (kind : FailureKind) (message : Text)
  | fatal (kind : FailureKind) (message : Text)
  deriving DecidableEq, Repr

structure MarkerSet where
  unavailable : List Text
  input : List Text
  deriving DecidableEq, Repr

namespace MarkerSet

def defaultUnavailable : List Text :=
  [lit "no seats", lit "sold out", lit "좌석 없음", lit "잔여석 없음", lit "매진"]

def defaultInput : List Text :=
  [lit "unauthorized", lit "forbidden", lit "authentication", lit "login failed",
   lit "invalid credentials", lit "malformed", lit "bad request", lit "invalid request",
   lit "unknown train", lit "not found"]

def default : MarkerSet := ⟨defaultUnavailable, defaultInput⟩

instance : Inhabited MarkerSet := ⟨default⟩

/-- The form in which markers are looked for; blank ones are left out. -/
def normalized (d : Text.Casing) (markers : List Text) : List Text :=
  (markers.map fun m => d.lowered (Text.trim m)).filter fun m => !m.isEmpty

def hits (d : Text.Casing) (markers : List Text) (lowered : Text) : Bool :=
  (normalized d markers).any fun m => Text.hasPart m lowered

def kindIn (d : Text.Casing) (s : MarkerSet) (message : Text) : FailureKind :=
  let message := d.lowered message
  if hits d s.input message then .input
  else if hits d s.unavailable message then .unavailable
  else .transient

def verdictIn (d : Text.Casing) (s : MarkerSet) : Answer → Verdict
  | .reserved detail => .success detail
  | .failed message =>
    match kindIn d s message with
    | .input => .fatal .input message
    | kind => .retryable kind message

def failureKind (s : MarkerSet) (message : Text) : FailureKind := kindIn .unicode s message

def verdict (s : MarkerSet) (answer : Answer) : Verdict := verdictIn .unicode s answer

end MarkerSet

end BookingRetry
