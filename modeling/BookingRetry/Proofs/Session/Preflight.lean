import BookingRetry.Session.Run

/-!
What can stop the program before the first attempt, told by the files and the arguments alone: the
first of these faults is the reason that the program gives, and without one it goes on with the
candidates that were chosen and the command that was found.
-/
namespace BookingRetry.RunRequest

def Loads (r : RunRequest) (h : Host) (set : CandidateSet) : Prop :=
  ∃ content t, h.read r.candidates = .ok content ∧ Utf8.decode? content = some t ∧
    CandidateSet.ofText t = .ok set

def choice (r : RunRequest) (set : CandidateSet) : Except SelectionFault (List Candidate) :=
  (Selection.read? (r.targets.getD [])).bind (Selection.choose set.candidates)

/-- What is wrong before the first attempt, and the reason that is given for it. Of several faults
the one that is met first counts. -/
inductive Refuses (r : RunRequest) (h : Host) : Text → Prop where
  | unreadable {f} (fault : h.read r.candidates = .error f) :
      Refuses r h (lit "Failed to read candidates from " ++ r.candidates ++ lit ": " ++ f.message)
  | notText {content} (read : h.read r.candidates = .ok content)
      (garbled : Utf8.decode? content = none) :
      Refuses r h (lit "Failed to read candidates from " ++ r.candidates ++
        lit ": stream did not contain valid UTF-8")
  | malformed {content t f} (read : h.read r.candidates = .ok content)
      (text : Utf8.decode? content = some t) (fault : CandidateSet.ofText t = .error f) :
      Refuses r h (lit "Malformed candidates file " ++ r.candidates ++ lit ": " ++ f.message)
  | notAPlace {set part} (loads : r.Loads h set) (fault : r.choice set = .error (.notAPlace part)) :
      Refuses r h (lit "Invalid target selection: '" ++ part ++ lit "' is not a position")
  | zero {set} (loads : r.Loads h set) (fault : r.choice set = .error .zero) :
      Refuses r h (lit "Invalid target selection: positions are 1-based, got 0")
  | outOfRange {set place count} (loads : r.Loads h set)
      (fault : r.choice set = .error (.outOfRange place count)) :
      Refuses r h (lit "Invalid target selection: target " ++ Numeral.written place ++
        lit " is out of range (only " ++ Numeral.written count ++ lit " candidates)")
  | missing {set candidates} (loads : r.Loads h set) (chosen : r.choice set = .ok candidates)
      (fault : Program.locate h r.program = .error .notFound) :
      Refuses r h (lit "reservation command " ++ r.program ++
        lit " not found: cannot find binary path")
  | unsearched {set candidates} (loads : r.Loads h set) (chosen : r.choice set = .ok candidates)
      (fault : Program.locate h r.program = .error .noSearchPath) :
      Refuses r h (lit "reservation command " ++ r.program ++
        lit " not found: no path to search and provided name is not an absolute path")

/-- Nothing is wrong. -/
structure Passes (r : RunRequest) (h : Host) (p : Prepared) : Prop where
  loads : ∃ set, r.Loads h set ∧ r.choice set = .ok p.candidates ∧ p.origin = set.origin ∧
    p.destination = set.destination
  found : Program.locate h r.program = .ok p.booking.program
  arguments_eq : p.booking.arguments = r.arguments

variable {r : RunRequest} {h : Host}

end BookingRetry.RunRequest
