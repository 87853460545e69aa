import BookingRetry.Proofs.Candidate.RoundTrip
import BookingRetry.Proofs.Json.Reordering
import BookingRetry.Proofs.Json.Soundness

/-!
Search results that differ only in blanks and in the order of members with different keys are read
as the same candidates. One member tells one thing, for which there must be room; what members of
different keys tell may be added in either order.
-/
namespace BookingRetry

open Json

namespace Candidate

variable {depth : Nat} {d b c : Draft}

/-! ### Reading a candidate -/

inductive Entry where
  | id (t : Text)
  | label (t : Text)
  | field (key : Text) (v : Value)

def Entry.ToldBy (depth : Nat) (key : Text) (o : Outline) : Entry → Prop
  | id t => key = idKey ∧ o.text = .ok t
  | label t => key = labelKey ∧ o.text = .ok t
  | field k v => key = k ∧ k ≠ idKey ∧ k ≠ labelKey ∧ o.value depth = .ok v

def Draft.Free (d : Draft) : Entry → Prop
  | .id _ => d.id = none
  | .label _ => d.label = none
  | .field _ _ => True

def Draft.add (d : Draft) : Entry → Draft
  | .id t => { d with id := some t }
  | .label t => { d with label := some t }
  | .field key v => { d with attributes := d.attributes.put key v }

theorem readMember_ok_iff {key : Text} {o : Outline} : readMember depth d key o = .ok b ↔
    ∃ e : Entry, e.ToldBy depth key o ∧ d.Free e ∧ b = d.add e := by
  constructor
  · intro read
    unfold readMember at read
    split at read
    · obtain ⟨t, first, rfl⟩ := map_ok read
      cases fresh : d.id <;> simp only [once, fresh] at first
      · exact ⟨.id t, ⟨‹_›, first⟩, fresh, rfl⟩
      · contradiction
    split at read
    · obtain ⟨t, first, rfl⟩ := map_ok read
      cases fresh : d.label <;> simp only [once, fresh] at first
      · exact ⟨.label t, ⟨‹_›, first⟩, fresh, rfl⟩
      · contradiction
    split at read
    · rename_i notId notLabel _ v value
      cases read
      exact ⟨.field key v, ⟨rfl, notId, notLabel, value⟩, trivial, rfl⟩
    · contradiction
  · rintro ⟨e, told, free, rfl⟩
    cases e with
    | id t =>
      obtain ⟨rfl, text⟩ := told
      have fresh : d.id = none := free
      simp [readMember, once, fresh, text, Except.map, Draft.add]
    | label t =>
      obtain ⟨rfl, text⟩ := told
      have fresh : d.label = none := free
      simp [readMember, idKey_ne_labelKey.symm, once, fresh, text, Except.map, Draft.add]
    | field k v =>
      obtain ⟨rfl, notId, notLabel, value⟩ := told
      simp [readMember, notId, notLabel, value, Draft.add]

theorem Entry.ToldBy.reordered {e : Entry} {key : Text} {o p : Outline} (same : o.Reordered p)
    (told : e.ToldBy depth key o) : e.ToldBy depth key p := by
  cases e with
  | id t => exact ⟨told.1, same.text_ok told.2⟩
  | label t => exact ⟨told.1, same.text_ok told.2⟩
  | field k v => exact ⟨told.1, told.2.1, told.2.2.1, same.value_ok told.2.2.2⟩

theorem readMember_reordered {key : Text} {o p : Outline} (same : o.Reordered p)
    (read : readMember depth d key o = .ok b) : readMember depth d key p = .ok b := by
  rw [readMember_ok_iff] at read ⊢
  obtain ⟨e, told, free, rfl⟩ := read
  exact ⟨e, told.reordered same, free, rfl⟩

theorem Draft.add_increasing (increasing : d.attributes.Increasing) (e : Entry) :
    (d.add e).attributes.Increasing := by
  cases e with
  | id t => exact increasing
  | label t => exact increasing
  | field key v => exact Members.increasing_put increasing key v

/-- What members of different keys tell may be added in either order. -/
theorem Draft.add_comm {k l : Text} {o p : Outline} {e f : Entry}
    (increasing : d.attributes.Increasing) (other : k ≠ l) (told : e.ToldBy depth k o)
    (told' : f.ToldBy depth l p) (free : d.Free e) (free' : (d.add e).Free f) :
    d.Free f ∧ (d.add f).Free e ∧ (d.add e).add f = (d.add f).add e := by
  cases e with
  | id t =>
    cases f with
    | id u => exact absurd (told.1.trans told'.1.symm) other
    | label u => exact ⟨free', free, rfl⟩
    | field l' u => exact ⟨free', free, rfl⟩
  | label t =>
    cases f with
    | id u => exact ⟨free', free, rfl⟩
    | label u => exact absurd (told.1.trans told'.1.symm) other
    | field l' u => exact ⟨free', free, rfl⟩
  | field k' v =>
    cases f with
    | id u => exact ⟨free', free, rfl⟩
    | label u => exact ⟨free', free, rfl⟩
    | field l' u =>
      have other' : k' ≠ l' := told.1 ▸ told'.1 ▸ other
      exact ⟨free', free, by simp only [Draft.add, Members.put_comm increasing other']⟩

theorem readMember_swap {k l : Text} {o p : Outline} (increasing : d.attributes.Increasing)
    (other : k ≠ l) (first : readMember depth d k o = .ok b)
    (second : readMember depth b l p = .ok c) :
    ∃ b', readMember depth d l p = .ok b' ∧ readMember depth b' k o = .ok c := by
  simp only [readMember_ok_iff] at first second ⊢
  obtain ⟨e, told, free, rfl⟩ := first
  obtain ⟨f, told', free', rfl⟩ := second
  obtain ⟨here, there, same⟩ := Draft.add_comm increasing other told told' free free'
  exact ⟨_, ⟨f, told', here, rfl⟩, e, told, there, same⟩

theorem readMembers_cons_ok_iff {m : Quoted × Outline} {ms : List (Quoted × Outline)} :
    readMembers depth d (m :: ms) = .ok c ↔ ∃ key b, m.1.text = .ok key ∧
      readMember depth d key m.2 = .ok b ∧ readMembers depth b ms = .ok c := by
  obtain ⟨q, o⟩ := m
  cases name : q.text with
  | error f => simp [readMembers, name]
  | ok key => simp [readMembers_cons name]

theorem readMembers_append_ok_iff {ms ns : List (Quoted × Outline)} :
    readMembers depth d (ms ++ ns) = .ok c ↔
      ∃ b, readMembers depth d ms = .ok b ∧ readMembers depth b ns = .ok c := by
  induction ms generalizing d with
  | nil => simp [readMembers]
  | cons m ms ih =>
    simp only [List.cons_append, readMembers_cons_ok_iff, ih]
    constructor
    · rintro ⟨key, e, name, first, b, front, back⟩
      exact ⟨b, ⟨key, e, name, first, front⟩, back⟩
    · rintro ⟨b, ⟨key, e, name, first, front⟩, back⟩
      exact ⟨key, e, name, first, b, front, back⟩

theorem readMembers_increasing {ms : List (Quoted × Outline)}
    (increasing : d.attributes.Increasing) (read : readMembers depth d ms = .ok b) :
    b.attributes.Increasing := by
  induction ms generalizing d with
  | nil =>
    cases read
    exact increasing
  | cons m ms ih =>
    obtain ⟨key, b, _, first, rest⟩ := readMembers_cons_ok_iff.mp read
    obtain ⟨e, _, _, rfl⟩ := readMember_ok_iff.mp first
    exact ih (Draft.add_increasing increasing e) rest

theorem ofOutline_object_ok_iff {ms : List (Quoted × Outline)} {r : Candidate} :
    ofOutline depth (.object ms none) = .ok r ↔
      ∃ d, readMembers (depth + 1) {} ms = .ok d ∧ d.candidate = .ok r := by
  unfold ofOutline
  dsimp only
  cases readMembers (depth + 1) {} ms <;> simp [unlessFault]

theorem ofOutline_reordered {o p : Outline} {r : Candidate} (same : o.Reordered p)
    (read : ofOutline depth o = .ok r) : ofOutline depth p = .ok r := by
  induction same with
  | refl o => exact read
  | trans _ _ first second => exact second (first read)
  | item => contradiction
  | member front back key inside =>
    simp only [ofOutline_object_ok_iff, readMembers_append_ok_iff,
      readMembers_cons_ok_iff] at read ⊢
    obtain ⟨d, ⟨b, before, k, c, name, here, after⟩, whole⟩ := read
    exact ⟨d, ⟨b, before, k, c, name, readMember_reordered inside here, after⟩, whole⟩
  | swap front back apart =>
    simp only [ofOutline_object_ok_iff, readMembers_append_ok_iff,
      readMembers_cons_ok_iff] at read ⊢
    obtain ⟨d, ⟨b, before, k, c, name, first, l, e, name', second, after⟩, whole⟩ := read
    have other : k ≠ l := by
      rintro rfl
      exact apart k name name'
    have nothing : ({} : Draft).attributes.Increasing := List.Pairwise.nil
    have increasing := readMembers_increasing nothing before
    obtain ⟨c', first', second'⟩ := readMember_swap increasing other first second
    exact ⟨d, ⟨b, before, l, c', name', first', k, e, name, second', after⟩, whole⟩

end Candidate

namespace CandidateSet

open Candidate (once unlessFault idKey labelKey)

variable {d b c : Draft}

/-! ### Reading a search result -/

theorem readCandidates_cons_ok_iff {o : Outline} {os : List Outline} {cs : List Candidate} :
    readCandidates (o :: os) = .ok cs ↔ ∃ r rs, Candidate.ofOutline candidateDepth o = .ok r ∧
      readCandidates os = .ok rs ∧ cs = r :: rs := by
  rw [readCandidates]
  cases Candidate.ofOutline candidateDepth o with
  | error f => simp
  | ok r => cases readCandidates os <;> simp [Except.map, eq_comm]

theorem readCandidates_reordered {o p : Outline} {front back : List Outline}
    {cs : List Candidate} (same : o.Reordered p)
    (read : readCandidates (front ++ o :: back) = .ok cs) :
    readCandidates (front ++ p :: back) = .ok cs := by
  induction front generalizing cs with
  | nil =>
    simp only [List.nil_append, readCandidates_cons_ok_iff] at read ⊢
    obtain ⟨r, rs, first, rest, rfl⟩ := read
    exact ⟨r, rs, Candidate.ofOutline_reordered same first, rest, rfl⟩
  | cons q front ih =>
    simp only [List.cons_append, readCandidates_cons_ok_iff] at read ⊢
    obtain ⟨r, rs, first, rest, rfl⟩ := read
    exact ⟨r, rs, first, ih rest, rfl⟩

theorem readList_array_ok_iff {os : List Outline} {cs : List Candidate} :
    readList (.array os none) = .ok cs ↔ readCandidates os = .ok cs := by
  unfold readList
  dsimp only
  cases readCandidates os <;> simp [unlessFault]

theorem readList_reordered {o p : Outline} {cs : List Candidate} (same : o.Reordered p)
    (read : readList o = .ok cs) : readList p = .ok cs := by
  induction same with
  | refl o => exact read
  | trans _ _ first second => exact second (first read)
  | item front back inside =>
    rw [readList_array_ok_iff] at read ⊢
    exact readCandidates_reordered inside read
  | member | swap => contradiction

inductive Entry where
  | origin (t : Text)
  | destination (t : Text)
  | candidates (cs : List Candidate)
  | nothing

def Entry.ToldBy (key : Text) (o : Outline) : Entry → Prop
  | origin t => key = originKey ∧ o.text = .ok t
  | destination t => key = destinationKey ∧ o.text = .ok t
  | candidates cs => key = candidatesKey ∧ readList o = .ok cs
  | nothing => key ≠ originKey ∧ key ≠ destinationKey ∧ key ≠ candidatesKey ∧ o.skim = none

def Draft.Free (d : Draft) : Entry → Prop
  | .origin _ => d.origin = none
  | .destination _ => d.destination = none
  | .candidates _ => d.candidates = none
  | .nothing => True

def Draft.add (d : Draft) : Entry → Draft
  | .origin t => { d with origin := some t }
  | .destination t => { d with destination := some t }
  | .candidates cs => { d with candidates := some cs }
  | .nothing => d

theorem readField_ok_iff {key : Text} {o : Outline} : readField d key o = .ok b ↔
    ∃ e : Entry, e.ToldBy key o ∧ d.Free e ∧ b = d.add e := by
  constructor
  · intro read
    unfold readField at read
    split at read
    · obtain ⟨t, first, rfl⟩ := map_ok read
      cases fresh : d.origin <;> simp only [once, fresh] at first
      · exact ⟨.origin t, ⟨‹_›, first⟩, fresh, rfl⟩
      · contradiction
    split at read
    · obtain ⟨t, first, rfl⟩ := map_ok read
      cases fresh : d.destination <;> simp only [once, fresh] at first
      · exact ⟨.destination t, ⟨‹_›, first⟩, fresh, rfl⟩
      · contradiction
    split at read
    · obtain ⟨cs, first, rfl⟩ := map_ok read
      cases fresh : d.candidates <;> simp only [once, fresh] at first
      · exact ⟨.candidates cs, ⟨‹_›, first⟩, fresh, rfl⟩
      · contradiction
    split at read
    · contradiction
    · rename_i notOrigin notDestination notCandidates _ skimmed
      cases read
      exact ⟨.nothing, ⟨notOrigin, notDestination, notCandidates, skimmed⟩, trivial, rfl⟩
  · rintro ⟨e, told, free, rfl⟩
    cases e with
    | origin t =>
      obtain ⟨rfl, text⟩ := told
      have fresh : d.origin = none := free
      simp [readField, once, fresh, text, Except.map, Draft.add]
    | destination t =>
      obtain ⟨rfl, text⟩ := told
      have fresh : d.destination = none := free
      have named : destinationKey ≠ originKey := by decide
      simp [readField, named, once, fresh, text, Except.map, Draft.add]
    | candidates cs =>
      obtain ⟨rfl, list⟩ := told
      have fresh : d.candidates = none := free
      have named : candidatesKey ≠ originKey ∧ candidatesKey ≠ destinationKey := by decide
      simp [readField, named, once, fresh, list, Except.map, Draft.add]
    | nothing =>
      obtain ⟨notOrigin, notDestination, notCandidates, skimmed⟩ := told
      simp [readField, notOrigin, notDestination, notCandidates, skimmed, Draft.add]

theorem readField_reordered {key : Text} {o p : Outline} (same : o.Reordered p)
    (read : readField d key o = .ok b) : readField d key p = .ok b := by
  rw [readField_ok_iff] at read ⊢
  obtain ⟨e, told, free, rfl⟩ := read
  refine ⟨e, ?_, free, rfl⟩
  cases e with
  | origin t => exact ⟨told.1, same.text_ok told.2⟩
  | destination t => exact ⟨told.1, same.text_ok told.2⟩
  | candidates cs => exact ⟨told.1, readList_reordered same told.2⟩
  | nothing => exact ⟨told.1, told.2.1, told.2.2.1, same.skim_iff.mp told.2.2.2⟩

theorem Draft.add_comm {k l : Text} {o p : Outline} {e f : Entry} (other : k ≠ l)
    (told : e.ToldBy k o) (told' : f.ToldBy l p) (free : d.Free e) (free' : (d.add e).Free f) :
    d.Free f ∧ (d.add f).Free e ∧ (d.add e).add f = (d.add f).add e := by
  cases e
  all_goals cases f
  all_goals
    first
      | exact absurd (told.1.trans told'.1.symm) other
      | exact ⟨free', free, rfl⟩

theorem readField_swap {k l : Text} {o p : Outline} (other : k ≠ l)
    (first : readField d k o = .ok b) (second : readField b l p = .ok c) :
    ∃ b', readField d l p = .ok b' ∧ readField b' k o = .ok c := by
  simp only [readField_ok_iff] at first second ⊢
  obtain ⟨e, told, free, rfl⟩ := first
  obtain ⟨f, told', free', rfl⟩ := second
  obtain ⟨here, there, same⟩ := Draft.add_comm other told told' free free'
  exact ⟨_, ⟨f, told', here, rfl⟩, e, told, there, same⟩

theorem readFields_cons_ok_iff {m : Quoted × Outline} {ms : List (Quoted × Outline)} :
    readFields d (m :: ms) = .ok c ↔ ∃ key b, m.1.text = .ok key ∧
      readField d key m.2 = .ok b ∧ readFields b ms = .ok c := by
  obtain ⟨q, o⟩ := m
  cases name : q.text with
  | error f => simp [readFields, name]
  | ok key => simp [readFields_cons name]

theorem readFields_append_ok_iff {ms ns : List (Quoted × Outline)} :
    readFields d (ms ++ ns) = .ok c ↔
      ∃ b, readFields d ms = .ok b ∧ readFields b ns = .ok c := by
  induction ms generalizing d with
  | nil => simp [readFields]
  | cons m ms ih =>
    simp only [List.cons_append, readFields_cons_ok_iff, ih]
    constructor
    · rintro ⟨key, e, name, first, b, front, back⟩
      exact ⟨b, ⟨key, e, name, first, front⟩, back⟩
    · rintro ⟨b, ⟨key, e, name, first, front⟩, back⟩
      exact ⟨key, e, name, first, b, front, back⟩

theorem ofOutline_object_ok_iff {ms : List (Quoted × Outline)} {s : CandidateSet} :
    ofOutline (.object ms none) = .ok s ↔
      ∃ d, readFields {} ms = .ok d ∧ d.set = .ok s := by
  unfold ofOutline
  dsimp only
  cases readFields {} ms <;> simp [unlessFault]

theorem readArray_reordered {os ps : List Outline} {s : CandidateSet}
    (same : List.Forall₂ Outline.Reordered os ps) (read : readArray none os = .ok s) :
    readArray none ps = .ok s := by
  cases same with
  | nil => contradiction
  | cons first same =>
    cases same with
    | nil =>
      unfold readArray at read
      dsimp only at read
      split at read <;> contradiction
    | cons second same =>
      cases same with
      | nil =>
        unfold readArray at read
        dsimp only at read
        split at read
        · contradiction
        split at read <;> contradiction
      | cons third same =>
        obtain ⟨a, b, cs, origin, destination, list, rfl, rfl⟩ := readArray_three.mp read
        cases same
        exact readArray_three.mpr ⟨a, b, cs, first.text_ok origin, second.text_ok destination,
          readList_reordered third list, rfl, rfl⟩

theorem ofOutline_reordered {o p : Outline} {s : CandidateSet} (same : o.Reordered p)
    (read : ofOutline o = .ok s) : ofOutline p = .ok s := by
  induction same with
  | refl o => exact read
  | trans _ _ first second => exact second (first read)
  | item front back inside =>
    have unchanged (os : List Outline) : List.Forall₂ Outline.Reordered os os :=
      List.forall₂_same.mpr fun o _ => .refl o
    exact readArray_reordered
      (List.rel_append (unchanged front) (.cons inside (unchanged back))) read
  | member front back key inside =>
    simp only [ofOutline_object_ok_iff, readFields_append_ok_iff,
      readFields_cons_ok_iff] at read ⊢
    obtain ⟨d, ⟨b, before, k, c, name, here, after⟩, whole⟩ := read
    exact ⟨d, ⟨b, before, k, c, name, readField_reordered inside here, after⟩, whole⟩
  | swap front back apart =>
    simp only [ofOutline_object_ok_iff, readFields_append_ok_iff,
      readFields_cons_ok_iff] at read ⊢
    obtain ⟨d, ⟨b, before, k, c, name, first, l, e, name', second, after⟩, whole⟩ := read
    have other : k ≠ l := by
      rintro rfl
      exact apart k name name'
    obtain ⟨c', first', second'⟩ := readField_swap other first second
    exact ⟨d, ⟨b, before, l, c', name', first', k, e, name, second', after⟩, whole⟩

theorem readArray_fault (f : Fault) (os : List Outline) (s : CandidateSet) :
    readArray (some f) os ≠ .ok s := by
  intro read
  unfold readArray at read
  repeat' split at read
  all_goals contradiction

theorem whole_of_ofOutline {o : Outline} {s : CandidateSet} (read : ofOutline o = .ok s) :
    o.Whole := by
  cases o with
  | object ms fault =>
    unfold ofOutline at read
    dsimp only at read
    split at read
    · cases fault with
      | none => rfl
      | some f => contradiction
    · contradiction
  | array os fault =>
    cases fault with
    | none => rfl
    | some f => exact absurd read (readArray_fault f os s)
  | _ => contradiction

theorem ofText_laidOut {o : Outline} {t : Text} (laid : o.LaidOut t) : ofText t = ofOutline o := by
  unfold ofText Document.whole
  rw [Outline.ofText_laidOut laid]
  cases ofOutline o <;> rfl

/-- A text is read as a search result exactly if it is laid out as an outline that is. -/
theorem ofText_ok_iff_laidOut {t : Text} {s : CandidateSet} :
    ofText t = .ok s ↔ ∃ o : Outline, o.LaidOut t ∧ ofOutline o = .ok s := by
  constructor
  · intro read
    unfold ofText Document.whole at read
    rcases outlined : Document.ofText t with ⟨o, trailing⟩
    rw [outlined] at read
    dsimp only at read
    split at read
    · rename_i set outline
      split at read
      · contradiction
      · rename_i ends
        cases read
        rw [Bool.not_eq_true] at ends
        subst ends
        exact ⟨o, Outline.laidOut_of_whole outlined (whole_of_ofOutline outline), outline⟩
    · contradiction
  · rintro ⟨o, laid, read⟩
    rw [ofText_laidOut laid, read]

theorem ofText_rearranged {t u : Text} {s : CandidateSet} (rearranged : Rearranged t u)
    (read : ofText t = .ok s) : ofText u = .ok s := by
  obtain ⟨o, p, laid, laid', same⟩ := rearranged
  rw [ofText_laidOut laid] at read
  rw [ofText_laidOut laid']
  exact ofOutline_reordered same read

theorem load_ok_iff_ofText {h : Host} {path t : Text} {content : Bytes} {s : CandidateSet}
    (found : h.read path = .ok content) (encoded : Utf8.decode? content = some t) :
    load h path = .ok s ↔ ofText t = .ok s := by
  unfold load
  simp only [found, encoded]
  cases ofText t <;> simp

end CandidateSet

end BookingRetry
