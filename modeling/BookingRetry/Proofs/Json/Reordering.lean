import BookingRetry.Proofs.Json.Document
import BookingRetry.Proofs.Json.Layout

/-!
Outlines that differ only in the order of members with different keys. Whatever is read of one of
them is read of the other: it is passed over, is a text, or has a value, exactly if the other does,
and then the same one.
-/
namespace BookingRetry.Json

def Quoted.Apart (q r : Quoted) : Prop := ∀ key, q.text = .ok key → r.text ≠ .ok key

theorem Quoted.Apart.symm {q r : Quoted} (apart : q.Apart r) : r.Apart q := by
  intro key read other
  exact apart key other read

def Quoted.plain (t : Text) : Quoted := ⟨t.map .char, none⟩

theorem Quoted.plain_text (t : Text) : (plain t).text = .ok t := by
  unfold text plain
  dsimp only
  induction t with
  | nil => rfl
  | cons c cs ih =>
    rw [List.map_cons, spelled, ih]
    rfl

theorem Quoted.plain_apart {t u : Text} (other : t ≠ u) : (plain t).Apart (plain u) := by
  intro key read read'
  rw [plain_text] at read read'
  injection read with same
  injection read' with same'
  exact other (same.trans same'.symm)

namespace Outline

/-- The second outline has the members of the first one, at any depth, in another order. Members
with the same key stay in their order. -/
inductive Reordered : Outline → Outline → Prop where
  | refl (o : Outline) : Reordered o o
  | trans {o p q : Outline} (first : Reordered o p) (second : Reordered p q) : Reordered o q
  | item {o p : Outline} (front back : List Outline) (inside : Reordered o p) :
      Reordered (.array (front ++ o :: back) none) (.array (front ++ p :: back) none)
  | member {o p : Outline} (front back : List (Quoted × Outline)) (key : Quoted)
      (inside : Reordered o p) :
      Reordered (.object (front ++ (key, o) :: back) none)
        (.object (front ++ (key, p) :: back) none)
  | swap {m n : Quoted × Outline} (front back : List (Quoted × Outline))
      (apart : m.1.Apart n.1) :
      Reordered (.object (front ++ m :: n :: back) none) (.object (front ++ n :: m :: back) none)

theorem Reordered.symm {o p : Outline} (h : Reordered o p) : Reordered p o := by
  induction h with
  | refl o => exact .refl o
  | trans _ _ first second => exact .trans second first
  | item front back _ inside => exact .item front back inside
  | member front back key _ inside => exact .member front back key inside
  | swap front back apart => exact .swap front back apart.symm

/-! ### Passing over -/

theorem skimItems_eq_none_iff {os : List Outline} :
    skimItems os = none ↔ ∀ o ∈ os, o.skim = none := by
  induction os with
  | nil => simp [skimItems]
  | cons o os ih => simp [skimItems, firstFault, ih]

theorem skimMembers_eq_none_iff {ms : List (Quoted × Outline)} :
    skimMembers ms = none ↔ ∀ m ∈ ms, m.1.fault = none ∧ m.2.skim = none := by
  induction ms with
  | nil => simp [skimMembers]
  | cons m ms ih =>
    obtain ⟨key, o⟩ := m
    simp [skimMembers, firstFault, ih, and_assoc]

theorem Reordered.skim_iff {o p : Outline} (h : Reordered o p) :
    o.skim = none ↔ p.skim = none := by
  induction h with
  | refl o => rfl
  | trans _ _ first second => exact first.trans second
  | item front back _ inside =>
    simp only [skim, firstFault, Option.or_none, skimItems_eq_none_iff, List.forall_mem_append,
      List.forall_mem_cons, inside]
  | member front back key _ inside =>
    simp only [skim, firstFault, Option.or_none, skimMembers_eq_none_iff, List.forall_mem_append,
      List.forall_mem_cons, inside]
  | swap front back apart =>
    simp only [skim, firstFault, Option.or_none, skimMembers_eq_none_iff, List.forall_mem_append,
      List.forall_mem_cons]
    rw [and_left_comm (c := ∀ m ∈ back, _)]

/-! ### Texts -/

theorem Reordered.text_ok {o p : Outline} (h : Reordered o p) {t : Text}
    (read : o.text = .ok t) : p.text = .ok t := by
  induction h with
  | refl o => exact read
  | trans _ _ first second => exact second (first read)
  | item | member | swap => cases read

/-! ### Values -/

variable {d : Nat}

theorem value_array_ok_iff {os : List Outline} {v : Value} :
    (Outline.array os none).value d = .ok v ↔
      d < maxDepth ∧ ∃ vs, valueItems (d + 1) os = .ok vs ∧ v = .array vs := by
  unfold value
  by_cases deep : maxDepth ≤ d
  · simp [deep, Nat.not_lt.mpr deep]
  · simp only [deep, if_false, Nat.lt_of_not_le deep, true_and]
    cases valueItems (d + 1) os <;> simp [finished, eq_comm]

theorem value_object_ok_iff {ms : List (Quoted × Outline)} {v : Value} :
    (Outline.object ms none).value d = .ok v ↔
      d < maxDepth ∧ ∃ ns, valueMembers (d + 1) ms = .ok ns ∧ v = .object ns.ordered := by
  unfold value
  by_cases deep : maxDepth ≤ d
  · simp [deep, Nat.not_lt.mpr deep]
  · simp only [deep, if_false, Nat.lt_of_not_le deep, true_and]
    cases valueMembers (d + 1) ms <;> simp [finished, eq_comm]

theorem valueItems_cons_ok_iff {o : Outline} {os : List Outline} {vs : List Value} :
    valueItems d (o :: os) = .ok vs ↔
      ∃ u us, o.value d = .ok u ∧ valueItems d os = .ok us ∧ vs = u :: us := by
  rw [valueItems]
  cases o.value d with
  | error f => simp
  | ok u => cases valueItems d os <;> simp [Except.map, eq_comm]

theorem valueItems_append_ok_iff {os ps : List Outline} {vs : List Value} :
    valueItems d (os ++ ps) = .ok vs ↔
      ∃ us ws, valueItems d os = .ok us ∧ valueItems d ps = .ok ws ∧ vs = us ++ ws := by
  induction os generalizing vs with
  | nil => simp [valueItems]
  | cons o os ih =>
    simp only [List.cons_append, valueItems_cons_ok_iff, ih]
    constructor
    · rintro ⟨u, _, first, ⟨us, ws, front, back, rfl⟩, rfl⟩
      exact ⟨u :: us, ws, ⟨u, us, first, front, rfl⟩, back, rfl⟩
    · rintro ⟨_, ws, ⟨u, us, first, front, rfl⟩, back, rfl⟩
      exact ⟨u, us ++ ws, first, ⟨us, ws, front, back, rfl⟩, rfl⟩

theorem valueMembers_cons_ok_iff {m : Quoted × Outline} {ms : List (Quoted × Outline)}
    {ns : Members} :
    valueMembers d (m :: ms) = .ok ns ↔ ∃ key v us, m.1.text = .ok key ∧ m.2.value d = .ok v ∧
      valueMembers d ms = .ok us ∧ ns = (key, v) :: us := by
  obtain ⟨q, o⟩ := m
  rw [valueMembers]
  cases q.text with
  | error f => simp
  | ok key =>
    dsimp only
    cases o.value d with
    | error f => simp
    | ok v => cases valueMembers d ms <;> simp [Except.map, eq_comm]

theorem valueMembers_append_ok_iff {ms ns : List (Quoted × Outline)} {us : Members} :
    valueMembers d (ms ++ ns) = .ok us ↔
      ∃ vs ws, valueMembers d ms = .ok vs ∧ valueMembers d ns = .ok ws ∧ us = vs ++ ws := by
  induction ms generalizing us with
  | nil => simp [valueMembers]
  | cons m ms ih =>
    simp only [List.cons_append, valueMembers_cons_ok_iff, ih]
    constructor
    · rintro ⟨key, v, _, name, first, ⟨vs, ws, front, back, rfl⟩, rfl⟩
      exact ⟨(key, v) :: vs, ws, ⟨key, v, vs, name, first, front, rfl⟩, back, rfl⟩
    · rintro ⟨_, ws, ⟨key, v, vs, name, first, front, rfl⟩, back, rfl⟩
      exact ⟨key, v, vs ++ ws, name, first, ⟨vs, ws, front, back, rfl⟩, rfl⟩

theorem Reordered.value_ok {o p : Outline} (h : Reordered o p) {d : Nat} {v : Value}
    (read : o.value d = .ok v) : p.value d = .ok v := by
  induction h generalizing d v with
  | refl o => exact read
  | trans _ _ first second => exact second (first read)
  | item front back _ inside =>
    simp only [value_array_ok_iff, valueItems_append_ok_iff, valueItems_cons_ok_iff] at read ⊢
    obtain ⟨deep, _, ⟨us, _, before, ⟨u, ws, here, after, rfl⟩, rfl⟩, rfl⟩ := read
    exact ⟨deep, _, ⟨us, _, before, ⟨u, ws, inside here, after, rfl⟩, rfl⟩, rfl⟩
  | member front back key _ inside =>
    simp only [value_object_ok_iff, valueMembers_append_ok_iff, valueMembers_cons_ok_iff] at read ⊢
    obtain ⟨deep, _, ⟨us, _, before, ⟨k, u, ws, name, here, after, rfl⟩, rfl⟩, rfl⟩ := read
    exact ⟨deep, _, ⟨us, _, before, ⟨k, u, ws, name, inside here, after, rfl⟩, rfl⟩, rfl⟩
  | swap front back apart =>
    simp only [value_object_ok_iff, valueMembers_append_ok_iff, valueMembers_cons_ok_iff] at read ⊢
    obtain ⟨deep, _, ⟨us, _, before, ⟨k, u, _, name, here,
      ⟨l, w, ws, name', here', after, rfl⟩, rfl⟩, rfl⟩, rfl⟩ := read
    refine ⟨deep, _, ⟨us, _, before, ⟨l, w, _, name', here',
      ⟨k, u, ws, name, here, after, rfl⟩, rfl⟩, rfl⟩, ?_⟩
    have other : k ≠ l := by
      rintro rfl
      exact apart k name name'
    rw [Members.ordered_swap us ws other]

end Outline

/-- The texts are JSON, and differ only in blanks and in the order of members with different
keys. -/
def Rearranged (t u : Text) : Prop :=
  ∃ o p : Outline, o.LaidOut t ∧ p.LaidOut u ∧ o.Reordered p

theorem Rearranged.symm {t u : Text} (h : Rearranged t u) : Rearranged u t := by
  obtain ⟨o, p, laid, laid', same⟩ := h
  exact ⟨p, o, laid', laid, same.symm⟩

end BookingRetry.Json
