import BookingRetry.Candidate.Reader
import BookingRetry.Session.Basic
import BookingRetry.Proofs.Json.Reading
import BookingRetry.Proofs.Json.Writing
import BookingRetry.Proofs.Text.Utf8

/-!
Which search results are accepted, and what is read of them. A result is an object or an array of
three; its named members stand once, or at most once where one may be missing, and are of their
kinds. A candidate has its identity and its label once, and of its other members the last one under
each key.
-/
namespace BookingRetry

open Json

namespace Candidate

def Acceptable (v : Value) : Prop :=
  ∃ ms : Members, v = .object ms ∧ (∃ id, ms.under idKey = [.string id]) ∧
    ∃ label, ms.under labelKey = [.string label]

/-- The candidate that a value describes. -/
structure Described (v : Value) (c : Candidate) : Prop where
  members : ∃ ms : Members, v = .object ms ∧ ms.under idKey = [.string c.id] ∧
    ms.under labelKey = [.string c.label] ∧
    ∀ key, Option.Rel Value.Settles
      (if key = idKey ∨ key = labelKey then none else ms.last? key) (c.attributes.first? key)
  increasing : c.attributes.Increasing

end Candidate

namespace CandidateSet

def TextIfAny (ms : Members) (key : Text) : Prop :=
  ms.under key = [] ∨ ∃ t, ms.under key = [.string t]

def TextOrEmpty (ms : Members) (key t : Text) : Prop :=
  ms.under key = [.string t] ∨ ms.under key = [] ∧ t = []

def Acceptable (v : Value) : Prop :=
  ∃ vs, (∀ v ∈ vs, Candidate.Acceptable v) ∧
    ((∃ ms : Members, v = .object ms ∧ TextIfAny ms originKey ∧ TextIfAny ms destinationKey ∧
      ms.under candidatesKey = [.array vs]) ∨
    ∃ origin destination, v = .array [.string origin, .string destination, .array vs])

/-- The set of a value, given how candidates are told of values. -/
def Shaped (P : Value → Candidate → Prop) (v : Value) (s : CandidateSet) : Prop :=
  ∃ vs, List.Forall₂ P vs s.candidates ∧
    ((∃ ms : Members, v = .object ms ∧ TextOrEmpty ms originKey s.origin ∧
      TextOrEmpty ms destinationKey s.destination ∧ ms.under candidatesKey = [.array vs]) ∨
    v = .array [.string s.origin, .string s.destination, .array vs])

def Described : Value → CandidateSet → Prop := Shaped Candidate.Described

end CandidateSet

/-! ### Members that stand once -/

namespace Candidate

/-- What is known of a member that may stand once only, before and after some values under its
key. -/
def Once {α : Type} (P : Value → α → Prop) (old : Option α) (vs : List Value) (new : Option α) :
    Prop :=
  (vs = [] ∧ new = old) ∨ ∃ v a, old = none ∧ vs = [v] ∧ P v a ∧ new = some a

variable {α : Type} {P : Value → α → Prop} {old new : Option α} {v : Value} {vs : List Value}

theorem once_cons : Once P old (v :: vs) new ↔
    ∃ a, old = none ∧ P v a ∧ Once P (some a) vs new := by
  constructor
  · rintro (⟨none, _⟩ | ⟨u, a, fresh, single, holds, rfl⟩)
    · contradiction
    · cases single
      exact ⟨a, fresh, holds, Or.inl ⟨rfl, rfl⟩⟩
  · rintro ⟨a, fresh, holds, ⟨rfl, rfl⟩ | ⟨u, b, again, _⟩⟩
    · exact Or.inr ⟨v, a, fresh, rfl, holds, rfl⟩
    · contradiction

theorem once_then_iff {β : Type} {key : Text} {read : Except ReadFault α}
    (reads : ∀ a, read = .ok a ↔ P v a) {f : α → β} {rest : β → Prop} :
    (∃ b, (once key old read).map f = .ok b ∧ rest b) ↔
      ∃ a, old = none ∧ P v a ∧ rest (f a) := by
  simp only [← reads]
  cases old with
  | some a => simp [once, Except.map]
  | none => cases read <;> simp [once, Except.map]

def IsString (v : Value) (t : Text) : Prop := v = .string t

theorem text_reads {o : Outline} (said : o.said? = some v) (t : Text) :
    o.text = .ok t ↔ IsString v t :=
  Outline.text_ok_iff said t

/-! ### Reading a candidate -/

def others (ms : Members) : Members := ms.filter fun m => m.1 ≠ idKey ∧ m.1 ≠ labelKey

/-- The candidate that a value is read as. -/
def ReadAs (v : Value) (c : Candidate) : Prop :=
  ∃ ms : Members, v = .object ms ∧ ms.under idKey = [.string c.id] ∧
    ms.under labelKey = [.string c.label] ∧
    c.attributes = Members.ordered (Value.settledMembers (others ms))

theorem idKey_ne_labelKey : idKey ≠ labelKey := by decide

theorem others_cons_id (v : Value) (ms : Members) : others ((idKey, v) :: ms) = others ms := by
  simp [others]

theorem others_cons_label (v : Value) (ms : Members) :
    others ((labelKey, v) :: ms) = others ms := by
  simp [others]

theorem others_cons_other {key : Text} (notId : key ≠ idKey) (notLabel : key ≠ labelKey) (v : Value)
    (ms : Members) : others ((key, v) :: ms) = (key, v) :: others ms := by
  simp [others, notId, notLabel]

theorem readMembers_cons {q : Quoted} {o : Outline} {os : List (Quoted × Outline)} {key : Text}
    {depth : Nat} {d d' : Draft} (name : q.text = .ok key) :
    readMembers depth d ((q, o) :: os) = .ok d' ↔
      ∃ b, readMember depth d key o = .ok b ∧ readMembers depth b os = .ok d' := by
  rw [readMembers, name]
  dsimp only
  cases readMember depth d key o <;> simp

theorem readMembers_ok_iff {os : List (Quoted × Outline)} {ms : Members} {depth : Nat}
    (said : Outline.saidMembers? os = some ms)
    (shallow : depth + Value.nestingMembers ms ≤ maxDepth) (d d' : Draft) :
    readMembers depth d os = .ok d' ↔
      Once IsString d.id (ms.under idKey) d'.id ∧
        Once IsString d.label (ms.under labelKey) d'.label ∧
        d'.attributes = d.attributes.putAll (Value.settledMembers (others ms)) := by
  -- For every draft, since a member that is read makes a second one of its key a fault.
  induction os generalizing ms d with
  | nil =>
    cases said
    obtain ⟨id, label, attributes⟩ := d
    obtain ⟨id', label', attributes'⟩ := d'
    simp [readMembers, Once, Members.under, others, Value.settledMembers, Members.putAll, eq_comm]
  | cons m os ih =>
    obtain ⟨q, o⟩ := m
    obtain ⟨key, v, ns, rfl, name, first, rest⟩ := Outline.saidMembers?_cons said
    unfold Value.nestingMembers at shallow
    have more := fun d => ih rest (by omega) d
    rw [readMembers_cons name]
    unfold readMember
    by_cases isId : key = idKey
    · subst isId
      rw [if_pos rfl, Members.under_cons_same, Members.under_cons_other idKey_ne_labelKey,
        once_cons, once_then_iff (text_reads first), others_cons_id]
      simp only [more, ← exists_and_right, and_assoc]
    by_cases isLabel : key = labelKey
    · subst isLabel
      rw [if_neg isId, if_pos rfl, Members.under_cons_same,
        Members.under_cons_other idKey_ne_labelKey.symm, once_cons,
        once_then_iff (text_reads first), others_cons_label]
      simp only [more, ← exists_and_left, ← exists_and_right, and_assoc, and_left_comm]
    · rw [if_neg isId, if_neg isLabel, Outline.value_of_said first (by omega),
        Members.under_cons_other isId, Members.under_cons_other isLabel,
        others_cons_other isId isLabel]
      constructor
      · rintro ⟨_, ⟨⟩, read⟩
        exact (more _).mp read
      · intro members
        exact ⟨_, rfl, (more _).mpr members⟩

theorem candidate_ok_iff {d : Draft} {c : Candidate} : d.candidate = .ok c ↔
    d.id = some c.id ∧ d.label = some c.label ∧ c.attributes = d.attributes := by
  obtain ⟨id, label, attributes⟩ := d
  obtain ⟨id', label', attributes'⟩ := c
  cases id with
  | none => simp [Draft.candidate]
  | some t => cases label <;> simp [Draft.candidate, eq_comm]

theorem once_some_iff {β : Type} {Q : Value → β → Prop} {vs : List Value} {a : β} :
    Once Q none vs (some a) ↔ ∃ v, vs = [v] ∧ Q v a := by
  simp only [Once, true_and]
  constructor
  · rintro (⟨_, none⟩ | ⟨v, b, single, holds, same⟩)
    · contradiction
    · cases same
      exact ⟨v, single, holds⟩
  · rintro ⟨v, single, holds⟩
    exact Or.inr ⟨v, a, single, holds, rfl⟩

theorem once_string_iff {vs : List Value} {t : Text} :
    Once IsString none vs (some t) ↔ vs = [.string t] := by
  simp [once_some_iff, IsString]

theorem ofOutline_ok_iff {o : Outline} {v : Value} {depth : Nat} (said : o.said? = some v)
    (shallow : depth + v.nesting ≤ maxDepth) (c : Candidate) :
    ofOutline depth o = .ok c ↔ ReadAs v c := by
  cases o with
  | cutNumber | broken => contradiction
  | null | bool =>
    cases said
    exact ⟨nofun, nofun⟩
  | number | string =>
    obtain ⟨_, _, rfl⟩ := Option.map_eq_some_iff.mp said
    exact ⟨nofun, nofun⟩
  | array items fault =>
    obtain ⟨_, vs, rfl, _⟩ := Outline.said?_array said
    exact ⟨nofun, nofun⟩
  | object members fault =>
    obtain ⟨rfl, ms, rfl, inside⟩ := Outline.said?_object said
    unfold Value.nesting at shallow
    have read := readMembers_ok_iff inside (show (depth + 1) + _ ≤ maxDepth by omega) {}
    have split : ofOutline depth (.object members none) = .ok c ↔
        ∃ d, readMembers (depth + 1) {} members = .ok d ∧ d.candidate = .ok c := by
      unfold ofOutline
      dsimp only
      cases readMembers (depth + 1) {} members <;> simp [unlessFault]
    rw [split]
    constructor
    · rintro ⟨d, ends, whole⟩
      obtain ⟨id, label, attributes⟩ := (read d).mp ends
      obtain ⟨hasId, hasLabel, same⟩ := candidate_ok_iff.mp whole
      rw [hasId, once_string_iff] at id
      rw [hasLabel, once_string_iff] at label
      exact ⟨ms, rfl, id, label, same.trans attributes⟩
    · rintro ⟨_, ⟨⟩, id, label, attributes⟩
      refine ⟨⟨some c.id, some c.label, c.attributes⟩, (read _).mpr ?_, rfl⟩
      exact ⟨once_string_iff.mpr id, once_string_iff.mpr label, attributes⟩

theorem last?_others (key : Text) (ms : Members) :
    Members.last? key (others ms) =
      if key = idKey ∨ key = labelKey then none else ms.last? key := by
  unfold others
  rw [Members.last?_filter fun k => k ≠ idKey ∧ k ≠ labelKey]
  by_cases named : key = idKey ∨ key = labelKey
  · rw [if_pos named, if_neg]
    simpa [Decidable.or_iff_not_imp_left] using named
  · rw [if_neg named, if_pos]
    simpa using named

theorem readAs_iff_described (v : Value) (c : Candidate) : ReadAs v c ↔ Described v c := by
  have kept : ∀ ms key, Members.first? key (Members.ordered (Value.settledMembers (others ms))) =
      (Members.last? key (others ms)).map Value.settled := by
    intro ms key
    rw [Members.first?_ordered, Value.last?_settledMembers]
  constructor
  · rintro ⟨ms, rfl, id, label, attributes⟩
    refine ⟨⟨ms, rfl, id, label, ?_⟩, ?_⟩
    · intro key
      rw [attributes, kept, ← last?_others]
      exact Value.settles_last key (others ms)
    · rw [attributes]
      exact Members.increasing_ordered _
  · rintro ⟨⟨ms, rfl, id, label, members⟩, increasing⟩
    refine ⟨ms, rfl, id, label, ?_⟩
    refine Members.eq_of_first? increasing (Members.increasing_ordered _) ?_
    intro key
    have last := members key
    rw [← last?_others] at last
    rw [kept]
    exact Value.eq_settled_last key (others ms) last

theorem acceptable_iff (v : Value) : Acceptable v ↔ ∃ c, ReadAs v c := by
  constructor
  · rintro ⟨ms, rfl, ⟨id, hasId⟩, label, hasLabel⟩
    exact ⟨⟨id, label, _⟩, ms, rfl, hasId, hasLabel, rfl⟩
  · rintro ⟨c, ms, rfl, id, label, _⟩
    exact ⟨ms, rfl, ⟨c.id, id⟩, c.label, label⟩

end Candidate

/-! ### Reading a search result -/

namespace CandidateSet

open Candidate (Once once IsString once_then_iff once_cons once_some_iff text_reads unlessFault)

def IsCandidates (v : Value) (cs : List Candidate) : Prop :=
  ∃ vs, v = .array vs ∧ List.Forall₂ Candidate.ReadAs vs cs

theorem readCandidates_ok_iff {os : List Outline} {vs : List Value}
    (said : Outline.saidItems? os = some vs)
    (shallow : candidateDepth + Value.nestingItems vs ≤ maxDepth) (cs : List Candidate) :
    readCandidates os = .ok cs ↔ List.Forall₂ Candidate.ReadAs vs cs := by
  induction os generalizing vs cs with
  | nil =>
    cases said
    cases cs <;> simp [readCandidates]
  | cons o os ih =>
    obtain ⟨v, us, rfl, first, rest⟩ := Outline.saidItems?_cons said
    unfold Value.nestingItems at shallow
    have head := Candidate.ofOutline_ok_iff first (show candidateDepth + _ ≤ maxDepth by omega)
    have tail := ih rest (by omega)
    unfold readCandidates
    constructor
    · intro read
      split at read
      · rename_i c candidate
        obtain ⟨cs, more, rfl⟩ := map_ok read
        exact .cons ((head c).mp candidate) ((tail cs).mp more)
      · contradiction
    · intro read
      cases read with
      | cons candidate more =>
        rw [(head _).mpr candidate]
        dsimp only
        rw [(tail _).mpr more]
        rfl

theorem readList_ok_iff {o : Outline} {v : Value} (said : o.said? = some v)
    (shallow : 1 + v.nesting ≤ maxDepth) (cs : List Candidate) :
    readList o = .ok cs ↔ IsCandidates v cs := by
  cases o with
  | cutNumber | broken => contradiction
  | null | bool =>
    cases said
    exact ⟨nofun, nofun⟩
  | number | string =>
    obtain ⟨_, _, rfl⟩ := Option.map_eq_some_iff.mp said
    exact ⟨nofun, nofun⟩
  | object members fault =>
    obtain ⟨_, ms, rfl, _⟩ := Outline.said?_object said
    exact ⟨nofun, nofun⟩
  | array items fault =>
    obtain ⟨rfl, vs, rfl, inside⟩ := Outline.said?_array said
    unfold Value.nesting at shallow
    have deep : candidateDepth + Value.nestingItems vs ≤ maxDepth := by
      unfold candidateDepth
      omega
    have read := readCandidates_ok_iff inside deep
    have split : readList (.array items none) = .ok cs ↔ readCandidates items = .ok cs := by
      unfold readList
      dsimp only
      cases readCandidates items <;> simp [unlessFault]
    rw [split, read]
    simp [IsCandidates]

theorem readFields_cons {q : Quoted} {o : Outline} {os : List (Quoted × Outline)} {key : Text}
    {d d' : Draft} (name : q.text = .ok key) :
    readFields d ((q, o) :: os) = .ok d' ↔
      ∃ b, readField d key o = .ok b ∧ readFields b os = .ok d' := by
  rw [readFields, name]
  dsimp only
  cases readField d key o <;> simp

theorem readFields_ok_iff {os : List (Quoted × Outline)} {ms : Members}
    (said : Outline.saidMembers? os = some ms)
    (shallow : 1 + Value.nestingMembers ms ≤ maxDepth) (d d' : Draft) :
    readFields d os = .ok d' ↔
      Once IsString d.origin (ms.under originKey) d'.origin ∧
        Once IsString d.destination (ms.under destinationKey) d'.destination ∧
        Once IsCandidates d.candidates (ms.under candidatesKey) d'.candidates := by
  induction os generalizing ms d with
  | nil =>
    cases said
    obtain ⟨origin, destination, candidates⟩ := d
    obtain ⟨origin', destination', candidates'⟩ := d'
    simp [readFields, Once, Members.under, eq_comm]
  | cons m os ih =>
    obtain ⟨q, o⟩ := m
    obtain ⟨key, v, ns, rfl, name, first, rest⟩ := Outline.saidMembers?_cons said
    unfold Value.nestingMembers at shallow
    have more := fun d => ih rest (by omega) d
    rw [readFields_cons name]
    unfold readField
    by_cases isOrigin : key = originKey
    · subst isOrigin
      rw [if_pos rfl, Members.under_cons_same, Members.under_cons_other (by decide),
        Members.under_cons_other (by decide), once_cons, once_then_iff (text_reads first)]
      simp only [more, ← exists_and_right, and_assoc]
    by_cases isDestination : key = destinationKey
    · subst isDestination
      rw [if_neg isOrigin, if_pos rfl, Members.under_cons_other (by decide),
        Members.under_cons_same, Members.under_cons_other (by decide), once_cons,
        once_then_iff (text_reads first)]
      simp only [more, ← exists_and_left, ← exists_and_right, and_assoc, and_left_comm]
    by_cases isCandidates : key = candidatesKey
    · subst isCandidates
      rw [if_neg isOrigin, if_neg isDestination, if_pos rfl, Members.under_cons_other (by decide),
        Members.under_cons_other (by decide), Members.under_cons_same, once_cons,
        once_then_iff (readList_ok_iff first (by omega))]
      simp only [more, ← exists_and_left, and_left_comm]
    · rw [if_neg isOrigin, if_neg isDestination, if_neg isCandidates, Outline.skim_of_said first,
        Members.under_cons_other isOrigin, Members.under_cons_other isDestination,
        Members.under_cons_other isCandidates]
      constructor
      · rintro ⟨_, ⟨⟩, read⟩
        exact (more _).mp read
      · intro members
        exact ⟨_, rfl, (more _).mpr members⟩

theorem set_ok_iff {d : Draft} {s : CandidateSet} : d.set = .ok s ↔
    d.candidates = some s.candidates ∧ s.origin = d.origin.getD [] ∧
      s.destination = d.destination.getD [] := by
  obtain ⟨origin, destination, candidates⟩ := d
  obtain ⟨origin', destination', candidates'⟩ := s
  cases candidates with
  | none => simp [Draft.set]
  | some cs =>
    simp only [Draft.set, Except.ok.injEq, mk.injEq, Option.some.injEq]
    constructor
    · rintro ⟨rfl, rfl, rfl⟩
      exact ⟨rfl, rfl, rfl⟩
    · rintro ⟨rfl, rfl, rfl⟩
      exact ⟨rfl, rfl, rfl⟩

theorem textOrEmpty_iff {ms : Members} {key t : Text} : TextOrEmpty ms key t ↔
    ∃ x, Once IsString none (ms.under key) x ∧ t = x.getD [] := by
  constructor
  · rintro (single | ⟨nothing, rfl⟩)
    · exact ⟨some t, once_some_iff.mpr ⟨_, single, rfl⟩, rfl⟩
    · exact ⟨none, Or.inl ⟨nothing, rfl⟩, rfl⟩
  · rintro ⟨x, ⟨nothing, rfl⟩ | ⟨v, a, _, single, rfl, rfl⟩, rfl⟩
    · exact Or.inr ⟨nothing, rfl⟩
    · exact Or.inl single

theorem readArray_three {o o' o'' : Outline} {more : List Outline} {s : CandidateSet} :
    readArray none (o :: o' :: o'' :: more) = .ok s ↔ ∃ a b cs, o.text = .ok a ∧
      o'.text = .ok b ∧ readList o'' = .ok cs ∧ more = [] ∧ s = ⟨a, b, cs⟩ := by
  unfold readArray
  dsimp only
  cases o.text with
  | error f => simp
  | ok a =>
    cases o'.text with
    | error f => simp
    | ok b =>
      cases readList o'' with
      | error f => simp
      | ok cs => cases more <;> simp [unlessFault, eq_comm]

theorem readArray_ok_iff {os : List Outline} {vs : List Value}
    (said : Outline.saidItems? os = some vs) (shallow : 1 + Value.nestingItems vs ≤ maxDepth)
    (s : CandidateSet) :
    readArray none os = .ok s ↔ ∃ us, List.Forall₂ Candidate.ReadAs us s.candidates ∧
      vs = [.string s.origin, .string s.destination, .array us] := by
  match os with
  | [] =>
    cases said
    simp [readArray, unlessFault]
  | [o] =>
    obtain ⟨v, _, rfl, first, rest⟩ := Outline.saidItems?_cons said
    cases rest
    unfold readArray
    dsimp only
    cases o.text <;> simp [unlessFault]
  | [o, o'] =>
    obtain ⟨v, _, rfl, first, rest⟩ := Outline.saidItems?_cons said
    obtain ⟨v', _, rfl, second, rest⟩ := Outline.saidItems?_cons rest
    cases rest
    unfold readArray
    dsimp only
    cases o.text with
    | error f => simp
    | ok t => cases o'.text <;> simp [unlessFault]
  | o :: o' :: o'' :: more =>
    obtain ⟨v, _, rfl, first, two⟩ := Outline.saidItems?_cons said
    obtain ⟨v', _, rfl, second, one⟩ := Outline.saidItems?_cons two
    obtain ⟨v'', _, rfl, third, rest⟩ := Outline.saidItems?_cons one
    simp only [Value.nestingItems] at shallow
    have origin := text_reads first
    have destination := text_reads second
    have candidates := readList_ok_iff third (by omega)
    rw [readArray_three]
    constructor
    · rintro ⟨a, b, cs, first, second, list, rfl, rfl⟩
      obtain ⟨us, rfl, listed⟩ := (candidates cs).mp list
      cases rest
      exact ⟨us, listed, by rw [(origin a).mp first, (destination b).mp second]⟩
    · rintro ⟨us, listed, same⟩
      cases same
      cases more with
      | cons o os =>
        obtain ⟨_, _, none, _⟩ := Outline.saidItems?_cons rest
        contradiction
      | nil =>
        exact ⟨_, _, _, (origin _).mpr rfl, (destination _).mpr rfl,
          (candidates _).mpr ⟨us, rfl, listed⟩, rfl, rfl⟩

theorem ofOutline_ok_iff {o : Outline} {v : Value} (said : o.said? = some v)
    (shallow : v.nesting ≤ maxDepth) (s : CandidateSet) :
    ofOutline o = .ok s ↔ Shaped Candidate.ReadAs v s := by
  cases o with
  | cutNumber | broken => contradiction
  | null | bool =>
    cases said
    refine ⟨nofun, ?_⟩
    rintro ⟨_, _, ⟨_, same, _⟩ | same⟩ <;> cases same
  | number | string =>
    obtain ⟨_, _, rfl⟩ := Option.map_eq_some_iff.mp said
    refine ⟨nofun, ?_⟩
    rintro ⟨_, _, ⟨_, same, _⟩ | same⟩ <;> cases same
  | array items fault =>
    obtain ⟨rfl, vs, rfl, inside⟩ := Outline.said?_array said
    unfold Value.nesting at shallow
    refine (readArray_ok_iff inside (by omega) s).trans ?_
    constructor
    · rintro ⟨us, candidates, rfl⟩
      exact ⟨us, candidates, Or.inr rfl⟩
    · rintro ⟨us, candidates, ⟨_, ⟨⟩, _⟩ | same⟩
      cases same
      exact ⟨us, candidates, rfl⟩
  | object members fault =>
    obtain ⟨rfl, ms, rfl, inside⟩ := Outline.said?_object said
    unfold Value.nesting at shallow
    have read := readFields_ok_iff inside (by omega) {}
    have split : ofOutline (.object members none) = .ok s ↔
        ∃ d, readFields {} members = .ok d ∧ d.set = .ok s := by
      unfold ofOutline
      dsimp only
      cases readFields {} members <;> simp [unlessFault]
    rw [split]
    constructor
    · rintro ⟨d, ends, whole⟩
      obtain ⟨origin, destination, candidates⟩ := (read d).mp ends
      obtain ⟨hasCandidates, sameOrigin, sameDestination⟩ := set_ok_iff.mp whole
      rw [hasCandidates] at candidates
      obtain ⟨_, single, vs, rfl, listed⟩ := once_some_iff.mp candidates
      exact ⟨vs, listed, Or.inl ⟨ms, rfl, textOrEmpty_iff.mpr ⟨_, origin, sameOrigin⟩,
        textOrEmpty_iff.mpr ⟨_, destination, sameDestination⟩, single⟩⟩
    · rintro ⟨vs, listed, ⟨_, ⟨⟩, origin, destination, single⟩ | same⟩
      case inr => cases same
      obtain ⟨x, originOnce, sameOrigin⟩ := textOrEmpty_iff.mp origin
      obtain ⟨y, destinationOnce, sameDestination⟩ := textOrEmpty_iff.mp destination
      refine ⟨⟨x, y, some s.candidates⟩, (read _).mpr ?_,
        set_ok_iff.mpr ⟨rfl, sameOrigin, sameDestination⟩⟩
      exact ⟨originOnce, destinationOnce, once_some_iff.mpr ⟨_, single, vs, rfl, listed⟩⟩

theorem ofText_ok_iff {v : Value} {t : Text} (text : IsText v t) (shallow : v.nesting ≤ maxDepth)
    (s : CandidateSet) : ofText t = .ok s ↔ Shaped Candidate.ReadAs v s := by
  obtain ⟨said, ends⟩ := ofText_isText text
  rw [← ofOutline_ok_iff said shallow]
  unfold ofText Document.whole
  cases ofOutline (Document.ofText t).outline <;> simp [ends]

theorem shaped_iff_described (v : Value) (s : CandidateSet) :
    Shaped Candidate.ReadAs v s ↔ Described v s := by
  constructor
  · rintro ⟨vs, candidates, shape⟩
    exact ⟨vs, candidates.imp fun v c => (Candidate.readAs_iff_described v c).mp, shape⟩
  · rintro ⟨vs, candidates, shape⟩
    exact ⟨vs, candidates.imp fun v c => (Candidate.readAs_iff_described v c).mpr, shape⟩

theorem allAcceptable_iff (vs : List Value) :
    (∀ v ∈ vs, Candidate.Acceptable v) ↔ ∃ cs, List.Forall₂ Candidate.ReadAs vs cs := by
  induction vs with
  | nil => exact ⟨fun _ => ⟨[], .nil⟩, fun _ => List.forall_mem_nil _⟩
  | cons v vs ih =>
    rw [List.forall_mem_cons, ih, Candidate.acceptable_iff]
    constructor
    · rintro ⟨⟨c, first⟩, cs, rest⟩
      exact ⟨c :: cs, .cons first rest⟩
    · rintro ⟨_, all⟩
      cases all with
      | cons first rest => exact ⟨⟨_, first⟩, _, rest⟩

theorem textIfAny_iff {ms : Members} {key : Text} :
    TextIfAny ms key ↔ ∃ t, TextOrEmpty ms key t := by
  constructor
  · rintro (nothing | ⟨t, single⟩)
    · exact ⟨[], Or.inr ⟨nothing, rfl⟩⟩
    · exact ⟨t, Or.inl single⟩
  · rintro ⟨t, single | ⟨nothing, _⟩⟩
    · exact Or.inr ⟨t, single⟩
    · exact Or.inl nothing

theorem acceptable_iff (v : Value) : Acceptable v ↔ ∃ s, Described v s := by
  simp only [← shaped_iff_described]
  constructor
  · rintro ⟨vs, all, shape⟩
    obtain ⟨cs, candidates⟩ := (allAcceptable_iff vs).mp all
    rcases shape with ⟨ms, rfl, origin, destination, single⟩ | ⟨origin, destination, rfl⟩
    · obtain ⟨a, origin⟩ := textIfAny_iff.mp origin
      obtain ⟨b, destination⟩ := textIfAny_iff.mp destination
      exact ⟨⟨a, b, cs⟩, vs, candidates, Or.inl ⟨ms, rfl, origin, destination, single⟩⟩
    · exact ⟨⟨origin, destination, cs⟩, vs, candidates, Or.inr rfl⟩
  · rintro ⟨s, vs, candidates, shape⟩
    refine ⟨vs, (allAcceptable_iff vs).mpr ⟨_, candidates⟩, ?_⟩
    rcases shape with ⟨ms, rfl, origin, destination, single⟩ | rfl
    · exact Or.inl ⟨ms, rfl, textIfAny_iff.mpr ⟨_, origin⟩, textIfAny_iff.mpr ⟨_, destination⟩,
        single⟩
    · exact Or.inr ⟨_, _, rfl⟩

theorem load_encoded {h : Host} {path t : Text} (found : h.read path = .ok (Utf8.encode t)) :
    load h path = match ofText t with
      | .ok s => .ok s
      | .error f => .error (.candidatesParse path f) := by
  unfold load
  cases read : ofText t <;> simp only [found, Utf8.decode?_encode, read]

theorem load_ok_iff {h : Host} {path t : Text} {v : Value}
    (found : h.read path = .ok (Utf8.encode t)) (text : IsText v t)
    (shallow : v.nesting ≤ maxDepth) (s : CandidateSet) :
    load h path = .ok s ↔ Shaped Candidate.ReadAs v s := by
  rw [load_encoded found, ← ofText_ok_iff text shallow]
  cases ofText t <;> simp

/-- A file with a JSON text that is not nested too deep is accepted exactly if the text says a
search result; the set is the one that is described, and all else is a fault of the file. -/
theorem load_judges {h : Host} {path t : Text} {v : Value}
    (found : h.read path = .ok (Utf8.encode t)) (text : IsText v t)
    (shallow : v.nesting ≤ maxDepth) :
    ((∃ s, load h path = .ok s) ↔ Acceptable v) ∧
    (∀ s, load h path = .ok s ↔ Described v s) ∧
    (¬ Acceptable v → ∃ f, load h path = .error (.candidatesParse path f)) := by
  have same : ∀ s, load h path = .ok s ↔ Described v s := fun s =>
    (load_ok_iff found text shallow s).trans (shaped_iff_described v s)
  have accepted : (∃ s, load h path = .ok s) ↔ Acceptable v := by
    rw [acceptable_iff]
    exact exists_congr same
  refine ⟨accepted, same, ?_⟩
  intro unacceptable
  rw [← accepted, load_encoded found] at unacceptable
  rw [load_encoded found]
  cases read : ofText t with
  | ok s =>
    rw [read] at unacceptable
    exact absurd ⟨s, rfl⟩ unacceptable
  | error f => exact ⟨f, rfl⟩

def repeated : Value :=
  .object
    [(lit "note", .null),
     (candidatesKey, .array
       [.object
         [(Candidate.idKey, .string (lit "1")), (Candidate.labelKey, .string (lit "first")),
          (lit "class", .number (.whole 1)), (lit "class", .number (.whole 2))]])]

def repeatedHost : Host where
  tree := { nodes := [([lit "seats.json"], .file (Utf8.encode repeated.written) 0o644 0)] }
  cwd := []
  environment := []

theorem repeated_judged :
    repeatedHost.read (lit "seats.json") = .ok (Utf8.encode repeated.written) ∧
      IsText repeated repeated.written ∧ repeated.nesting ≤ maxDepth ∧
      ∃ s, load repeatedHost (lit "seats.json") = .ok s ∧ Described repeated s := by
  have found : repeatedHost.read (lit "seats.json") = .ok (Utf8.encode repeated.written) := rfl
  have text : IsText repeated repeated.written := by
    apply written_isText
    simp only [repeated, Value.Each, Value.EachItem, Value.EachMember, Value.Whole]
    decide
  have shallow : repeated.nesting ≤ maxDepth := by decide
  have acceptable : Acceptable repeated := by
    refine ⟨_, ?_, Or.inl ⟨_, rfl, Or.inl rfl, Or.inl rfl, rfl⟩⟩
    rintro _ (_ | ⟨_, ⟨⟩⟩)
    exact ⟨_, rfl, ⟨_, rfl⟩, _, rfl⟩
  obtain ⟨accepts, describes, _⟩ := load_judges found text shallow
  obtain ⟨s, loaded⟩ := accepts.mpr acceptable
  exact ⟨found, text, shallow, s, loaded, (describes s).mp loaded⟩

/-- One candidate, under whose last key stands half of a pair first, for which `r` may stand, and a
number then. -/
def halved (r : Char) : Value :=
  .array
    [.string (lit "A"), .string (lit "B"), .array
      [.object
        [(Candidate.idKey, .string (lit "1")), (Candidate.labelKey, .string (lit "first")),
         (lit "class", .string [r]), (lit "class", .number (.whole 2))]]]

def halvedText : Text :=
  lit "[\"A\",\"B\",[\x7b\"id\":\"1\",\"label\":\"first\",\"class\":\"\\ud800\",\"class\":2\x7d]]"

def halvedHost : Host where
  tree := { nodes := [([lit "seats.json"], .file (Utf8.encode halvedText) 0o644 0)] }
  cwd := []
  environment := []

theorem halved_isText (r : Char) : IsTextWith (some r) (halved r) halvedText := by
  have word : ∀ t, StringText (some r) t (t.flatMap writtenChar) := writtenString_spells
  have half : StringText (some r) [r] (lit "\\ud800") :=
    .half (n := 0xD800) (by decide) (Or.inl ⟨by decide, not_startsLow_nil⟩) rfl .nil
  have two : Spells (some r) (.value (.number (.whole 2))) (Value.number (.whole 2)).written :=
    written_spells ⟨by decide, by decide⟩
  have members := compact_member (word Candidate.idKey) (.string (word (lit "1")))
    (compact_member (word Candidate.labelKey) (.string (word (lit "first")))
      (compact_member (word (lit "class")) (.string half)
        (compact_lastMember (word (lit "class")) two)))
  have items := compact_item (.string (word (lit "A"))) (compact_item (.string (word (lit "B")))
    (compact_lastItem (.array (compact_lastItem (.object members)))))
  exact ⟨[], _, [], blank_nil, .array items, blank_nil, by decide +kernel⟩

theorem half_refused :
    halvedHost.read (lit "seats.json") = .ok (Utf8.encode halvedText) ∧
      (∀ r, IsTextWith (some r) (halved r) halvedText ∧ (halved r).nesting ≤ maxDepth ∧
        Acceptable (halved r)) ∧
      ∃ f, load halvedHost (lit "seats.json") = .error (.candidatesParse (lit "seats.json") f) := by
  have found : halvedHost.read (lit "seats.json") = .ok (Utf8.encode halvedText) := rfl
  refine ⟨found, ?_, ?_⟩
  · intro r
    refine ⟨halved_isText r, show 3 ≤ maxDepth by decide, _, ?_, Or.inr ⟨_, _, rfl⟩⟩
    rintro _ (_ | ⟨_, ⟨⟩⟩)
    exact ⟨_, rfl, ⟨_, rfl⟩, _, rfl⟩
  · have refused : (ofText halvedText).toOption.isNone = true := by decide +kernel
    rw [load_encoded found]
    cases read : ofText halvedText with
    | error f => exact ⟨f, rfl⟩
    | ok s =>
      rw [read] at refused
      contradiction

end CandidateSet

end BookingRetry
