import BookingRetry.Candidate
import BookingRetry.Proofs.Selection.Grammar

/-!
What a selection that was read chooses from a list: all of it, or the members at its places, or
nothing at all if the list does not reach to one of them. Places are counted from one, and none that
was read is zero, so picking never counts down from zero.
-/
namespace BookingRetry.Selection

section Picking

variable {α : Type} {xs : List α} {ns : List Nat} {i : Nat}

/-- Picking that comes to nothing, not even a fault, where it would count down from zero. -/
def pickGuarded? (xs : List α) : List Nat → Option (Except SelectionFault (List α))
  | [] => some (.ok [])
  | 0 :: _ => none
  | (i + 1) :: ns =>
    match xs[i]? with
    | none => some (.error (.outOfRange (i + 1) xs.length))
    | some x => (pickGuarded? xs ns).map (Except.map (x :: ·))

def MemberAt (xs : List α) (n : Nat) (x : α) : Prop := ∃ i, n = i + 1 ∧ xs[i]? = some x

/-- What comes of picking the members of a list at some places: it never counts down from zero, and
there are members for all of the places, or the first place that has none is told. -/
structure PickedAt (xs : List α) (ns : List Nat) (result : Except SelectionFault (List α)) :
    Prop where
  guarded : pickGuarded? xs ns = some result
  ok_iff : (∃ chosen, result = .ok chosen) ↔ ∀ n ∈ ns, n ≤ xs.length
  members : ∀ chosen, result = .ok chosen → List.Forall₂ (MemberAt xs) ns chosen
  missing : ∀ f, result = .error f → ∃ front n after, ns = front ++ n :: after ∧
    (∀ m ∈ front, m ≤ xs.length) ∧ xs.length < n ∧ f = .outOfRange n xs.length

theorem pickedAt_nil (xs : List α) : PickedAt xs [] (.ok []) where
  guarded := rfl
  ok_iff := by simp
  members := by
    intro chosen eq
    cases eq
    exact .nil
  missing := nofun

theorem pickedAt_missing (short : xs.length ≤ i) (ns : List Nat) :
    PickedAt xs ((i + 1) :: ns) (.error (.outOfRange (i + 1) xs.length)) where
  guarded := by simp [pickGuarded?, short]
  ok_iff := by
    constructor
    · rintro ⟨chosen, eq⟩
      contradiction
    · intro within
      have first := within (i + 1) List.mem_cons_self
      omega
  members := nofun
  missing := by
    intro f eq
    cases eq
    exact ⟨[], i + 1, ns, rfl, nofun, by omega, rfl⟩

theorem PickedAt.cons {result : Except SelectionFault (List α)} (picked : PickedAt xs ns result)
    {x : α} (found : xs[i]? = some x) : PickedAt xs ((i + 1) :: ns) (result.map (x :: ·)) where
  guarded := by simp [pickGuarded?, found, picked.guarded]
  ok_iff := by
    have inside : i + 1 ≤ xs.length := (List.getElem?_eq_some_iff.mp found).1
    rw [List.forall_mem_cons, ← picked.ok_iff]
    cases result <;> simp [Except.map, inside]
  members := by
    intro chosen eq
    cases result with
    | error f => contradiction
    | ok rest =>
      cases eq
      exact .cons ⟨i, rfl, found⟩ (picked.members rest rfl)
  missing := by
    intro f eq
    cases result with
    | ok rest => contradiction
    | error g =>
      obtain ⟨front, n, after, rfl, within, beyond, rfl⟩ := picked.missing g rfl
      cases eq
      have inside : i + 1 ≤ xs.length := (List.getElem?_eq_some_iff.mp found).1
      refine ⟨(i + 1) :: front, n, after, rfl, ?_, beyond, rfl⟩
      rw [List.forall_mem_cons]
      exact ⟨inside, within⟩

theorem pick_pickedAt (xs : List α) (positive : ∀ n ∈ ns, 0 < n) :
    PickedAt xs ns (pick xs ns) := by
  induction ns with
  | nil => exact pickedAt_nil xs
  | cons n ns ih =>
    rw [List.forall_mem_cons] at positive
    cases n with
    | zero => exact absurd positive.1 (Nat.lt_irrefl 0)
    | succ i =>
      unfold pick
      rw [Nat.add_sub_cancel]
      cases found : xs[i]? with
      | none => exact pickedAt_missing (List.getElem?_eq_none_iff.mp found) ns
      | some x => exact (ih positive.2).cons found

end Picking

/-- A text that was read as this selection chooses from a list as it is written: all, or the members
at the places that it names, each in the order in which it is named first. -/
inductive ChoosesAsWritten {α : Type} (t : Text) (xs : List α) : Selection → Prop where
  | all (asks : AsksForAll t) (whole : choose xs .all = .ok xs) : ChoosesAsWritten t xs .all
  | places {named ns : List Nat} (lists : Lists t named) (firsts : FirstNamed named ns)
      (picked : PickedAt xs ns (choose xs (.places ns))) : ChoosesAsWritten t xs (.places ns)

/-- Whatever candidates there are, a text that is read chooses from them as it is written. -/
theorem chosen_as_written {t : Text} {s : Selection} (read : read? t = .ok s)
    (found : CandidateSet) : ChoosesAsWritten t found.candidates s := by
  cases read?_ok_iff.mp read with
  | all asks => exact .all asks rfl
  | places lists firsts =>
    refine .places lists firsts (pick_pickedAt found.candidates ?_)
    intro n member
    exact (lists.bounded n ((firsts.same n).mp member)).1

def pair : CandidateSet := ⟨[], [], [⟨lit "a", lit "A", []⟩, ⟨lit "b", lit "B", []⟩]⟩

theorem pair_chosen :
    read? (lit "2,1,+2") = .ok (.places [2, 1]) ∧
      ChoosesAsWritten (lit "2,1,+2") pair.candidates (.places [2, 1]) ∧
      read? (lit "2,9,4") = .ok (.places [2, 9, 4]) ∧
      ChoosesAsWritten (lit "2,9,4") pair.candidates (.places [2, 9, 4]) :=
  ⟨rfl, chosen_as_written rfl pair, rfl, chosen_as_written rfl pair⟩

example : choose pair.candidates (.places [2, 9, 4]) = .error (.outOfRange 9 2) := rfl

end BookingRetry.Selection
