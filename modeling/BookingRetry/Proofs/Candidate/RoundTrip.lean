import BookingRetry.Booking
import BookingRetry.Proofs.Candidate.Acceptance
import BookingRetry.Proofs.Json.Writing

/-!
A candidate of a search result reaches the booking command as it is: the JSON text in the command's
environment is read as the same candidate, if no number in it is binary.
-/
namespace BookingRetry

open Json

namespace Candidate

/-- What the attributes of a candidate are that has been read inside `depth` arrays and objects. -/
structure Kept (depth : Nat) (ms : Members) : Prop where
  increasing : ms.Increasing
  each : ∀ m ∈ ms, (m.1 ≠ idKey ∧ m.1 ≠ labelKey) ∧ m.2.Each Value.Tidy ∧
    depth + m.2.nesting ≤ maxDepth

theorem kept_nil (depth : Nat) : Kept depth [] :=
  ⟨List.Pairwise.nil, List.forall_mem_nil _⟩

variable {depth : Nat} {d d' : Draft}

theorem readMember_kept {key : Text} {o : Outline} (room : depth ≤ maxDepth)
    (h : Kept depth d.attributes) (read : readMember depth d key o = .ok d') :
    Kept depth d'.attributes := by
  unfold readMember at read
  split at read
  · obtain ⟨t, _, rfl⟩ := map_ok read
    exact h
  split at read
  · obtain ⟨t, _, rfl⟩ := map_ok read
    exact h
  rename_i notId notLabel
  split at read
  · rename_i v value
    cases read
    exact ⟨Members.increasing_put h.increasing key v,
      Members.forall_put h.each ⟨⟨notId, notLabel⟩, Outline.value_tidy value room⟩⟩
  · contradiction

theorem readMembers_kept {os : List (Quoted × Outline)} (room : depth ≤ maxDepth)
    (h : Kept depth d.attributes) (read : readMembers depth d os = .ok d') :
    Kept depth d'.attributes := by
  induction os generalizing d with
  | nil =>
    cases read
    exact h
  | cons m os ih =>
    obtain ⟨q, o⟩ := m
    cases name : q.text with
    | error f =>
      rw [readMembers, name] at read
      contradiction
    | ok key =>
      obtain ⟨b, first, rest⟩ := (readMembers_cons name).mp read
      exact ih (readMember_kept room h first) rest

theorem ofOutline_kept {o : Outline} {c : Candidate} (room : depth < maxDepth)
    (read : ofOutline depth o = .ok c) : Kept (depth + 1) c.attributes := by
  unfold ofOutline at read
  split at read
  case h_2 => contradiction
  rename_i members fault
  split at read
  case h_2 => contradiction
  rename_i d inside
  cases fault with
  | some f => contradiction
  | none =>
    obtain ⟨_, _, same⟩ := candidate_ok_iff.mp read
    rw [same]
    exact readMembers_kept room (kept_nil _) inside

end Candidate

namespace CandidateSet

open Candidate (Kept once unlessFault)

def AllKept (cs : List Candidate) : Prop := ∀ c ∈ cs, Kept (candidateDepth + 1) c.attributes

theorem readCandidates_kept {os : List Outline} {cs : List Candidate}
    (read : readCandidates os = .ok cs) : AllKept cs := by
  induction os generalizing cs with
  | nil =>
    cases read
    exact List.forall_mem_nil _
  | cons o os ih =>
    unfold readCandidates at read
    split at read
    case h_2 => contradiction
    rename_i c candidate
    obtain ⟨more, rest, rfl⟩ := map_ok read
    exact List.forall_mem_cons.mpr
      ⟨Candidate.ofOutline_kept (by decide) candidate, ih rest⟩

theorem readList_kept {o : Outline} {cs : List Candidate} (read : readList o = .ok cs) :
    AllKept cs := by
  unfold readList at read
  split at read
  case h_2 => contradiction
  rename_i items fault
  split at read
  case h_2 => contradiction
  rename_i listed inside
  cases fault with
  | some f => contradiction
  | none =>
    cases read
    exact readCandidates_kept inside

theorem readField_kept {d d' : Draft} {key : Text} {o : Outline}
    (h : ∀ cs, d.candidates = some cs → AllKept cs) (read : readField d key o = .ok d') :
    ∀ cs, d'.candidates = some cs → AllKept cs := by
  unfold readField at read
  split at read
  · obtain ⟨t, _, rfl⟩ := map_ok read
    exact h
  split at read
  · obtain ⟨t, _, rfl⟩ := map_ok read
    exact h
  split at read
  · obtain ⟨cs, first, rfl⟩ := map_ok read
    rintro _ ⟨⟩
    unfold once at first
    split at first
    · contradiction
    · exact readList_kept first
  split at read
  · contradiction
  · cases read
    exact h

theorem readFields_kept {os : List (Quoted × Outline)} {d d' : Draft}
    (h : ∀ cs, d.candidates = some cs → AllKept cs) (read : readFields d os = .ok d') :
    ∀ cs, d'.candidates = some cs → AllKept cs := by
  induction os generalizing d with
  | nil =>
    cases read
    exact h
  | cons m os ih =>
    obtain ⟨q, o⟩ := m
    cases name : q.text with
    | error f =>
      rw [readFields, name] at read
      contradiction
    | ok key =>
      obtain ⟨b, first, rest⟩ := (readFields_cons name).mp read
      exact ih (readField_kept h first) rest

theorem readArray_kept {fault : Option Fault} {os : List Outline} {s : CandidateSet}
    (read : readArray fault os = .ok s) : AllKept s.candidates := by
  unfold readArray at read
  split at read
  · cases fault <;> contradiction
  split at read
  · contradiction
  split at read
  · cases fault <;> contradiction
  split at read
  · contradiction
  split at read
  · cases fault <;> contradiction
  split at read
  · contradiction
  rename_i list
  split at read
  · cases fault with
    | some f => contradiction
    | none =>
      cases read
      exact readList_kept list
  · contradiction

theorem ofOutline_kept {o : Outline} {s : CandidateSet} (read : ofOutline o = .ok s) :
    AllKept s.candidates := by
  unfold ofOutline at read
  split at read
  case h_2 => exact readArray_kept read
  case h_3 => contradiction
  rename_i members fault
  split at read
  case h_2 => contradiction
  rename_i d inside
  cases fault with
  | some f => contradiction
  | none =>
    obtain ⟨candidates, _⟩ := set_ok_iff.mp read
    exact readFields_kept (fun _ none => by cases none) inside _ candidates

theorem load_kept {h : Host} {path : Text} {s : CandidateSet} (loaded : load h path = .ok s) :
    AllKept s.candidates := by
  unfold load ofText Document.whole at loaded
  split at loaded
  · contradiction
  split at loaded
  · contradiction
  split at loaded
  case h_2 => contradiction
  rename_i result read
  cases loaded
  split at read
  case h_2 => contradiction
  rename_i set outline
  split at read
  · contradiction
  · cases read
    exact ofOutline_kept outline

end CandidateSet

namespace Candidate

theorem others_of_kept {depth : Nat} {ms : Members} (kept : Kept depth ms) : others ms = ms := by
  unfold others
  rw [List.filter_eq_self]
  intro m member
  simpa using (kept.each m member).1

theorem under_of_kept {depth : Nat} {ms : Members} (kept : Kept depth ms) :
    ms.under idKey = [] ∧ ms.under labelKey = [] := by
  unfold Members.under
  constructor
  · rw [List.map_eq_nil_iff, List.filter_eq_nil_iff]
    intro m member
    simpa using (kept.each m member).1.1
  · rw [List.map_eq_nil_iff, List.filter_eq_nil_iff]
    intro m member
    simpa using (kept.each m member).1.2

theorem ofText_written {c : Candidate} {depth : Nat} (kept : Kept (depth + 1) c.attributes)
    (exact : ∀ m ∈ c.attributes, m.2.Each Value.Exact) : ofText c.json.written = .ok c := by
  obtain ⟨noId, noLabel⟩ := under_of_kept kept
  have tidy : Value.EachMember Value.Tidy c.attributes :=
    Value.eachMember_iff.mpr fun m member => (kept.each m member).2.1
  have deep : Value.nestingMembers c.attributes ≤ maxDepth - (depth + 1) :=
    Value.nestingMembers_le_iff.mpr fun m member => by
      have shallow := (kept.each m member).2.2
      omega
  have shallow : 0 + c.json.nesting ≤ maxDepth := by
    simp only [json, Value.nesting, Value.nestingMembers, maxDepth] at deep ⊢
    omega
  have whole := Value.eachMember_both Value.whole_of_tidy tidy (Value.eachMember_iff.mpr exact)
  have text : IsText c.json c.json.written := written_isText ⟨trivial, trivial, trivial, whole⟩
  have readAs : ReadAs c.json c := by
    refine ⟨_, rfl, ?_, ?_, ?_⟩
    · rw [Members.under_cons_same, Members.under_cons_other idKey_ne_labelKey.symm, noId]
    · rw [Members.under_cons_other idKey_ne_labelKey, Members.under_cons_same, noLabel]
    · rw [others_cons_id, others_cons_label, others_of_kept kept,
        Value.settledMembers_of_tidy tidy, Members.ordered_of_increasing kept.increasing]
  obtain ⟨said, ends⟩ := ofText_isText text
  unfold ofText Document.whole
  rw [(ofOutline_ok_iff said shallow c).mpr readAs, ends]
  rfl

end Candidate

/-- The text that the booking command finds in its environment is read as the candidate that it is
called with, if that comes from a search result and has no binary number. -/
theorem Booking.candidate_told {h h' : Host} {path : Text} {s : CandidateSet} {c : Candidate}
    (loaded : CandidateSet.load h path = .ok s) (member : c ∈ s.candidates)
    (exact : ∀ m ∈ c.attributes, m.2.Each Value.Exact) (attempt : Nat) :
    ∃ text, (Booking.environment h' c attempt).find? (fun v => v.1 = jsonVariable) =
        some (jsonVariable, text) ∧ Candidate.ofText text = .ok c :=
  ⟨c.json.written, rfl, Candidate.ofText_written (CandidateSet.load_kept loaded c member) exact⟩

def Booking.quoted : Candidate :=
  ⟨lit "1", lit "\"first\"\n", [(lit "seats", .array [.number (.whole (-7)), .null])]⟩

def Booking.quotedHost : Host where
  tree :=
    { nodes :=
        [([lit "seats.json"],
          .file (Utf8.encode (Value.array
            [.string (lit "A"), .string (lit "B"), .array [quoted.json]]).written) 0o644 0)] }
  cwd := []
  environment := []

theorem Booking.quoted_told :
    ∃ s, CandidateSet.load quotedHost (lit "seats.json") = .ok s ∧ quoted ∈ s.candidates ∧
      (∀ m ∈ quoted.attributes, m.2.Each Value.Exact) ∧
      ∃ text, (Booking.environment quotedHost quoted 1).find? (fun v => v.1 = jsonVariable) =
        some (jsonVariable, text) ∧ Candidate.ofText text = .ok quoted := by
  have whole : (Value.array
      [.string (lit "A"), .string (lit "B"), .array [quoted.json]]).Each Value.Whole := by
    simp only [quoted, Candidate.json, Value.Each, Value.EachItem, Value.EachMember, Value.Whole]
    decide
  have readAs : Candidate.ReadAs quoted.json quoted := ⟨_, rfl, rfl, rfl, rfl⟩
  have loaded : CandidateSet.load quotedHost (lit "seats.json") =
      .ok ⟨lit "A", lit "B", [quoted]⟩ :=
    (CandidateSet.load_ok_iff rfl (written_isText whole) (by decide) _).mpr
      ⟨_, .cons readAs .nil, Or.inr rfl⟩
  have member : quoted ∈ [quoted] := List.mem_singleton_self quoted
  have exact : ∀ m ∈ quoted.attributes, m.2.Each Value.Exact := by
    simp [quoted, Value.Each, Value.EachItem, Value.Exact]
  exact ⟨_, loaded, member, exact, candidate_told loaded member exact 1⟩

end BookingRetry
