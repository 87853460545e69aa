import BookingRetry.Candidate
import BookingRetry.Json.Reader

/-!
Candidates as they are read from a search result in JSON. The result is an object, or an array of
its three fields in order; other fields of the object are passed over. A candidate is an object.
Faults come in the order of the text, the first one decides.
-/
namespace BookingRetry

open Json

namespace Candidate

structure Draft where
  id : Option Text := none
  label : Option Text := none
  attributes : Members := []

def once {α : Type} (key : Text) (old : Option α) (read : Except ReadFault α) :
    Except ReadFault α :=
  match old with
  | some _ => .error (duplicate key)
  | none => read

def readMember (depth : Nat) (d : Draft) (key : Text) (o : Outline) : Except ReadFault Draft :=
  if key = idKey then (once key d.id o.text).map fun t => { d with id := some t }
  else if key = labelKey then (once key d.label o.text).map fun t => { d with label := some t }
  else match o.value depth with
    | .ok v => .ok { d with attributes := d.attributes.put key v }
    | .error f => .error (.json f)

def readMembers (depth : Nat) (d : Draft) :
    List (Quoted × Outline) → Except ReadFault Draft
  | [] => .ok d
  | (key, o) :: ms =>
    match key.text with
    | .error f => .error (.json f)
    | .ok key =>
      match readMember depth d key o with
      | .ok d => readMembers depth d ms
      | .error f => .error f

def Draft.candidate (d : Draft) : Except ReadFault Candidate :=
  match d.id, d.label with
  | none, _ => .error (missing idKey)
  | some _, none => .error (missing labelKey)
  | some id, some label => .ok ⟨id, label, d.attributes⟩

def unlessFault {α : Type} (fault : Option Fault) (r : Except ReadFault α) : Except ReadFault α :=
  match fault with
  | some f => .error (.json f)
  | none => r

def wanted : Text := lit "struct Candidate"

def ofOutline (depth : Nat) : Outline → Except ReadFault Candidate
  | .object members fault =>
    match readMembers (depth + 1) {} members with
    | .ok d => unlessFault fault d.candidate
    | .error f => .error f
  | o => .error (o.mismatch wanted)

def ofText (t : Text) : Except ReadFault Candidate :=
  (Document.ofText t).whole (ofOutline 0)

end Candidate

namespace CandidateSet

open Candidate (once unlessFault)

def originKey : Text := lit "origin"

def destinationKey : Text := lit "destination"

def candidatesKey : Text := lit "candidates"

structure Draft where
  origin : Option Text := none
  destination : Option Text := none
  candidates : Option (List Candidate) := none

def candidateDepth : Nat := 2

def readCandidates : List Outline → Except ReadFault (List Candidate)
  | [] => .ok []
  | o :: os =>
    match Candidate.ofOutline candidateDepth o with
    | .ok c => (readCandidates os).map (c :: ·)
    | .error f => .error f

def listWanted : Text := lit "a sequence"

def readList : Outline → Except ReadFault (List Candidate)
  | .array items fault =>
    match readCandidates items with
    | .ok cs => unlessFault fault (.ok cs)
    | .error f => .error f
  | o => .error (o.mismatch listWanted)

def readField (d : Draft) (key : Text) (o : Outline) : Except ReadFault Draft :=
  if key = originKey then (once key d.origin o.text).map fun t => { d with origin := some t }
  else if key = destinationKey then
    (once key d.destination o.text).map fun t => { d with destination := some t }
  else if key = candidatesKey then
    (once key d.candidates (readList o)).map fun cs => { d with candidates := some cs }
  else match o.skim with
    | some f => .error (.json f)
    | none => .ok d

def readFields (d : Draft) : List (Quoted × Outline) → Except ReadFault Draft
  | [] => .ok d
  | (key, o) :: ms =>
    match key.text with
    | .error f => .error (.json f)
    | .ok key =>
      match readField d key o with
      | .ok d => readFields d ms
      | .error f => .error f

/-- A set without places to go from or to has empty ones; one without candidates is none. -/
def Draft.set (d : Draft) : Except ReadFault CandidateSet :=
  match d.candidates with
  | none => .error (missing candidatesKey)
  | some cs => .ok ⟨d.origin.getD [], d.destination.getD [], cs⟩

def tooShort : ReadFault :=
  .shape (lit "invalid length 2, expected struct CandidateSet with 3 elements")

/-- The fields in order. What follows the third one may only be the end. -/
def readArray (fault : Option Fault) : List Outline → Except ReadFault CandidateSet
  | [] => unlessFault fault (.error tooShort)
  | o :: os =>
    match o.text with
    | .error f => .error f
    | .ok origin =>
      match os with
      | [] => unlessFault fault (.error tooShort)
      | o :: os =>
        match o.text with
        | .error f => .error f
        | .ok destination =>
          match os with
          | [] => unlessFault fault (.error tooShort)
          | o :: os =>
            match readList o with
            | .error f => .error f
            | .ok candidates =>
              if os.isEmpty then unlessFault fault (.ok ⟨origin, destination, candidates⟩)
              else .error (.json .malformed)

def setWanted : Text := lit "struct CandidateSet"

def ofOutline : Outline → Except ReadFault CandidateSet
  | .object members fault =>
    match readFields {} members with
    | .ok d => unlessFault fault d.set
    | .error f => .error f
  | .array items fault => readArray fault items
  | o => .error (o.mismatch setWanted)

def ofText (t : Text) : Except ReadFault CandidateSet := (Document.ofText t).whole ofOutline

end CandidateSet

end BookingRetry
