import BookingRetry.Json.Value
import BookingRetry.Text.Basic
import BookingRetry.Text.Numeral

/-!
What a run tries to book. A candidate has an identity for the vendor, a label for people, and any
further fields, which are carried to the vendor untouched. All candidates of a list are tried, or
those at given places, counted from one and taken in the order in which they were first named; a
run walks round them without an end.
-/
namespace BookingRetry

structure Candidate where
  id : Text
  label : Text
  attributes : Json.Members

structure CandidateSet where
  origin : Text
  destination : Text
  candidates : List Candidate

namespace Candidate

def idKey : Text := lit "id"

def labelKey : Text := lit "label"

def json (c : Candidate) : Json.Value :=
  .object ((idKey, .string c.id) :: (labelKey, .string c.label) :: c.attributes)

end Candidate

inductive Selection where
  | all
  | places (ns : List Nat)
  deriving DecidableEq, Repr

inductive SelectionFault where
  | notAPlace (part : Text)
  | zero
  | outOfRange (place count : Nat)
  deriving DecidableEq, Repr

def SelectionFault.reason : SelectionFault → Text
  | notAPlace part => '\'' :: part ++ lit "' is not a position"
  | zero => lit "positions are 1-based, got 0"
  | outOfRange place count =>
    lit "target " ++ Numeral.written place ++ lit " is out of range (only " ++
      Numeral.written count ++ lit " candidates)"

namespace Selection

def everything : Text := lit "all"

def place? (part : Text) : Except SelectionFault Nat :=
  let part := Text.trim part
  match Numeral.readWord? part with
  | none => .error (.notAPlace part)
  | some 0 => .error .zero
  | some n => .ok n

/-- The places of the parts, each once, after those in `seen`. -/
def placesFrom (seen : List Nat) : List Text → Except SelectionFault (List Nat)
  | [] => .ok seen
  | part :: parts =>
    match place? part with
    | .error f => .error f
    | .ok n => placesFrom (if n ∈ seen then seen else seen ++ [n]) parts

def read? (t : Text) : Except SelectionFault Selection :=
  let t := Text.trim t
  if t.isEmpty || t.map Char.toLower = everything then .ok .all
  else (placesFrom [] (Text.pieces ',' t)).map places

def written : Selection → Text
  | all => everything
  | places ns => Text.joined [','] (ns.map Numeral.written)

def pick {α : Type} (xs : List α) : List Nat → Except SelectionFault (List α)
  | [] => .ok []
  | n :: ns =>
    match xs[n - 1]? with
    | none => .error (.outOfRange n xs.length)
    | some x => (pick xs ns).map (x :: ·)

def choose {α : Type} (xs : List α) : Selection → Except SelectionFault (List α)
  | all => .ok xs
  | places ns => pick xs ns

end Selection

/-- A walk round a list. Its rounds are counted without a bound; a machine word agrees up to the
largest one. -/
structure Rotation (α : Type) where
  items : List α
  index : Nat
  wraps : Nat
  index_lt : index < items.length

namespace Rotation

variable {α : Type}

def ofList? (items : List α) : Option (Rotation α) :=
  if h : 0 < items.length then some ⟨items, 0, 0, h⟩ else none

def current (r : Rotation α) : α := r.items.get ⟨r.index, r.index_lt⟩

def size (r : Rotation α) : Nat := r.items.length

def atLast (r : Rotation α) : Bool := r.index + 1 = r.items.length

/-- One step on; after the last item the first one again, which counts as a wrap. -/
def next (r : Rotation α) : Rotation α :=
  if h : r.index + 1 < r.items.length then ⟨r.items, r.index + 1, r.wraps, h⟩
  else ⟨r.items, 0, r.wraps + 1, Nat.lt_of_le_of_lt (Nat.zero_le _) r.index_lt⟩

end Rotation

end BookingRetry
