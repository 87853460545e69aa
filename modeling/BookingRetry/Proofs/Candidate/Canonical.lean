import Mathlib.Data.List.Permutation
import BookingRetry.Proofs.Candidate.Reordering
import BookingRetry.Proofs.Json.Canonical

/-!
The booking command is told the same bytes about a candidate however its search result was written
down: identity, label, and the other members in the order of the bytes of their keys, which are in
order at every depth.
-/
namespace BookingRetry

open Json

def Booking.exported? (environment : List (Text × Text)) : Option Bytes :=
  (environment.find? fun v => v.1 = jsonVariable).map fun v => Utf8.encode v.2

namespace Candidate

/-- The text has the identity of the candidate, its label and its attributes, in this order. The
keys of the attributes increase, and so do those of every object in them. -/
def IsListing (c : Candidate) (t : Text) : Prop :=
  ∃ (id label : Quoted × Outline) (others : List (Quoted × Outline)),
    (Outline.object (id :: label :: others) none).LaidOut t ∧
    Outline.Names id (idKey, .string c.id) ∧ Outline.Names label (labelKey, .string c.label) ∧
    List.Forall₂ Outline.Names others c.attributes ∧
    Outline.KeysIncrease others ∧ Outline.OrderedMembers others

theorem json_listed {c : Candidate} {depth : Nat} (kept : Kept depth c.attributes) :
    c.IsListing c.json.written := by
  have others : Value.EachMember Value.Tidy c.attributes :=
    Value.eachMember_iff.mpr fun m member => (kept.each m member).2.1
  have tidy : Value.EachMember Value.Tidy
      ((idKey, .string c.id) :: (labelKey, .string c.label) :: c.attributes) :=
    ⟨trivial, trivial, others⟩
  obtain ⟨os, laid, ordered, names⟩ := Outline.writtenMembers_laid (List.cons_ne_nil _ _) tidy
  cases names with
  | cons named names =>
    cases names with
    | cons labelled names =>
      exact ⟨_, _, _,
        ⟨[], _, [], blank_nil, .object laid, blank_nil, by simp [json, Value.written]⟩,
        named, labelled, names, Outline.keysIncrease_of_names names kept.increasing, ordered.2.2⟩

end Candidate

namespace CandidateSet

open Candidate (idKey labelKey)

variable {h h' : Host} {path path' t t' : Text} {content content' : Bytes}

theorem rearranged_of_load {s : CandidateSet} (loaded : load h path = .ok s) :
    ∃ content t, h.read path = .ok content ∧ Utf8.decode? content = some t ∧ Rearranged t t := by
  unfold load at loaded
  split at loaded
  · contradiction
  rename_i content found
  split at loaded
  · contradiction
  rename_i t encoded
  split at loaded
  · rename_i read
    obtain ⟨o, laid, -⟩ := ofText_ok_iff_laidOut.mp read
    exact ⟨content, t, found, encoded, o, o, laid, laid, .refl o⟩
  · contradiction

/-- Two files whose texts differ only in blanks and in the order of members with different keys are
loaded as the same set or not at all, and the environments of the attempts for a candidate hold one
and the same listing of it, whatever else the hosts and the attempts are. -/
theorem rearranged_told_alike
    (found : h.read path = .ok content) (found' : h'.read path' = .ok content')
    (encoded : Utf8.decode? content = some t) (encoded' : Utf8.decode? content' = some t')
    (rearranged : Rearranged t t') :
    (∀ s, load h path = .ok s ↔ load h' path' = .ok s) ∧
    ∀ s s', load h path = .ok s → load h' path' = .ok s' → s = s' ∧
      ∀ (i : Nat) (c c' : Candidate), s.candidates[i]? = some c → s'.candidates[i]? = some c' →
        ∃ text, c.IsListing text ∧ ∀ (g g' : Host) (attempt attempt' : Nat),
          Booking.exported? (Booking.environment g c attempt) = some (Utf8.encode text) ∧
          Booking.exported? (Booking.environment g' c' attempt') = some (Utf8.encode text) := by
  have same (s : CandidateSet) : load h path = .ok s ↔ load h' path' = .ok s := by
    rw [load_ok_iff_ofText found encoded, load_ok_iff_ofText found' encoded']
    exact ⟨ofText_rearranged rearranged, ofText_rearranged rearranged.symm⟩
  refine ⟨same, ?_⟩
  intro s s' loaded loaded'
  have equal : s = s' := by
    have again := (same s).mp loaded
    rw [loaded'] at again
    injection again with eq
    exact eq.symm
  refine ⟨equal, ?_⟩
  intro i c c' here here'
  have told : c = c' := by
    rw [← equal, here] at here'
    injection here'
  have kept := load_kept loaded c (List.mem_of_getElem? here)
  exact ⟨c.json.written, Candidate.json_listed kept, fun g g' attempt attempt' =>
    ⟨rfl, by rw [← told]; rfl⟩⟩

/-! ### Two results with one seat -/

def writtenSeat : Text :=
  lit "\x7b\"candidates\":[\x7b\"id\":\"1\",\"b\":1,\"label\":\"A\",\"a\":\x7b\"y\":2,\"x\":3\x7d\x7d]\x7d"

def typedSeat : Text :=
  lit "\x7b \"candidates\": [\n \x7b\"id\": \"1\", \"a\": \x7b\"x\": 3, \"y\": 2\x7d, \"b\": 1, \"label\": \"A\"\x7d\n]\x7d\n"

def seatHost : Host where
  tree :=
    { nodes :=
        [([lit "written.json"], .file (Utf8.encode writtenSeat) 0o644 0),
         ([lit "typed.json"], .file (Utf8.encode typedSeat) 0o644 0)] }
  cwd := []
  environment := []

def seat : Candidate :=
  ⟨lit "1", lit "A",
    [(lit "a", .object [(lit "x", .number (.whole 3)), (lit "y", .number (.whole 2))]),
     (lit "b", .number (.whole 1))]⟩

def digit (c : Char) : Outline := .number ⟨false, [c], [], none, false⟩

def seatOutline (members : List (Quoted × Outline)) : Outline :=
  .object [(.plain candidatesKey, .array [.object members none] none)] none

def writtenOutline : Outline :=
  seatOutline [(.plain idKey, .string (.plain (lit "1"))), (.plain (lit "b"), digit '1'),
    (.plain labelKey, .string (.plain (lit "A"))),
    (.plain (lit "a"),
      .object [(.plain (lit "y"), digit '2'), (.plain (lit "x"), digit '3')] none)]

def typedOutline : Outline :=
  seatOutline [(.plain idKey, .string (.plain (lit "1"))),
    (.plain (lit "a"),
      .object [(.plain (lit "x"), digit '3'), (.plain (lit "y"), digit '2')] none),
    (.plain (lit "b"), digit '1'), (.plain labelKey, .string (.plain (lit "A")))]

theorem written_laidOut : writtenOutline.LaidOut writtenSeat := by
  have read : Document.ofText writtenSeat = ⟨writtenOutline, false⟩ := by cbv
  exact Outline.laidOut_of_whole read rfl

theorem typed_laidOut : typedOutline.LaidOut typedSeat := by
  have read : Document.ofText typedSeat = ⟨typedOutline, false⟩ := by cbv
  exact Outline.laidOut_of_whole read rfl

theorem seats_reordered : writtenOutline.Reordered typedOutline := by
  apply Outline.Reordered.member [] []
  apply Outline.Reordered.item [] []
  apply Outline.Reordered.trans
  · apply Outline.Reordered.member [_, _, _] []
    exact .swap [] [] (Quoted.plain_apart (by decide))
  apply Outline.Reordered.trans
  · exact .swap [_, _] [] (Quoted.plain_apart (by decide))
  exact .swap [_] [_] (Quoted.plain_apart (by decide))

theorem seats_told_alike :
    load seatHost (lit "written.json") = .ok ⟨[], [], [seat]⟩ ∧
    load seatHost (lit "typed.json") = .ok ⟨[], [], [seat]⟩ ∧
    ∃ text, seat.IsListing text ∧
      Booking.exported? (Booking.environment seatHost seat 1) = some (Utf8.encode text) := by
  have found : seatHost.read (lit "written.json") = .ok (Utf8.encode writtenSeat) := rfl
  have found' : seatHost.read (lit "typed.json") = .ok (Utf8.encode typedSeat) := rfl
  have loaded : load seatHost (lit "written.json") = .ok ⟨[], [], [seat]⟩ := by
    rw [load_ok_iff_ofText found (Utf8.decode?_encode _), ofText_laidOut written_laidOut]
    rfl
  obtain ⟨same, told⟩ := rearranged_told_alike found found' (Utf8.decode?_encode _)
    (Utf8.decode?_encode _) ⟨_, _, written_laidOut, typed_laidOut, seats_reordered⟩
  have loaded' := (same _).mp loaded
  obtain ⟨-, each⟩ := told _ _ loaded loaded'
  obtain ⟨text, listing, exported⟩ := each 0 seat seat rfl rfl
  exact ⟨loaded, loaded', text, listing, (exported seatHost seatHost 1 1).1⟩

end CandidateSet

end BookingRetry
