import BookingRetry.Proofs.Json.Numbers
import BookingRetry.Proofs.Json.Reading
import BookingRetry.Proofs.Text.ByteOrder

/-!
The compact text of a value whose members are in order: it is JSON, and in each object of it, at any
depth, the keys come in strictly increasing order of their bytes.
-/
namespace BookingRetry.Json

namespace Outline

def KeysIncrease (ms : List (Quoted × Outline)) : Prop :=
  ms.Pairwise fun m n => ∃ k l, m.1.text = .ok k ∧ n.1.text = .ok l ∧ Utf8.encode k < Utf8.encode l

mutual

/-- The keys increase in every object. -/
def Ordered : Outline → Prop
  | .array os _ => OrderedItems os
  | .object ms _ => KeysIncrease ms ∧ OrderedMembers ms
  | _ => True

def OrderedItems : List Outline → Prop
  | [] => True
  | o :: os => o.Ordered ∧ OrderedItems os

def OrderedMembers : List (Quoted × Outline) → Prop
  | [] => True
  | (_, o) :: ms => o.Ordered ∧ OrderedMembers ms

end

/-- The member has this key, and if its value is a text, it is that text. -/
structure Names (m : Quoted × Outline) (n : Text × Value) : Prop where
  key : m.1.text = .ok n.1
  value : ∀ t, n.2 = .string t → m.2.text = .ok t

theorem keys_of_names {os : List (Quoted × Outline)} {ms : Members}
    (names : List.Forall₂ Names os ms) : os.map (fun m => m.1.text) = ms.map fun n => .ok n.1 := by
  induction names with
  | nil => rfl
  | cons name _ ih => rw [List.map_cons, List.map_cons, name.key, ih]

theorem keysIncrease_of_names {os : List (Quoted × Outline)} {ms : Members}
    (names : List.Forall₂ Names os ms) (increasing : ms.Increasing) : KeysIncrease os := by
  have keys : (os.map fun m => m.1.text).Pairwise fun a b =>
      ∃ k l, a = .ok k ∧ b = .ok l ∧ Utf8.encode k < Utf8.encode l := by
    rw [keys_of_names names, List.pairwise_map]
    apply increasing.imp
    intro m n before
    exact ⟨m.1, n.1, rfl, rfl, (Text.order_eq_lt_iff m.1 n.1).mp before⟩
  exact List.pairwise_map.mp keys

mutual

theorem written_laid {v : Value} (tidy : v.Each Value.Tidy) :
    ∃ o, Laid (.value o) v.written ∧ o.Ordered ∧ ∀ t, v = .string t → o.text = .ok t := by
  cases v with
  | null => exact ⟨.null, .null, trivial, nofun⟩
  | bool b =>
    cases b with
    | true => exact ⟨.bool true, .true, trivial, nofun⟩
    | false => exact ⟨.bool false, .false, trivial, nofun⟩
  | number n =>
    obtain ⟨f, figure⟩ := figureText_number n
    exact ⟨.number f, .number figure, trivial, nofun⟩
  | string t =>
    obtain ⟨ps, pieces, spells⟩ := pieces_of_text (writtenString_spells t)
    refine ⟨_, .string pieces, trivial, ?_⟩
    rintro _ ⟨⟩
    simp [text, Quoted.text, spells]
  | array items =>
    cases items with
    | nil => exact ⟨_, .noItems blank_nil, trivial, nofun⟩
    | cons v vs =>
      obtain ⟨os, laid, ordered⟩ := writtenItems_laid (List.cons_ne_nil v vs) tidy.2
      exact ⟨_, .array laid, ordered, nofun⟩
  | object members =>
    cases members with
    | nil => exact ⟨_, .noMembers blank_nil, ⟨.nil, trivial⟩, nofun⟩
    | cons m ms =>
      obtain ⟨os, laid, ordered, names⟩ := writtenMembers_laid (List.cons_ne_nil m ms) tidy.2
      exact ⟨_, .object laid, ⟨keysIncrease_of_names names tidy.1, ordered⟩, nofun⟩

theorem writtenItems_laid {vs : List Value} (some : vs ≠ [])
    (tidy : Value.EachItem Value.Tidy vs) :
    ∃ os, Laid (.items os) (Text.joined [','] (writtenItems vs)) ∧ OrderedItems os := by
  cases vs with
  | nil => contradiction
  | cons v vs =>
    obtain ⟨o, laid, ordered, -⟩ := written_laid tidy.1
    cases vs with
    | nil =>
      have single := Laid.lastItem blank_nil laid blank_nil
      exact ⟨[o], by simpa [writtenItems, Text.joined] using single, ordered, trivial⟩
    | cons u us =>
      obtain ⟨os, rest, orderedRest⟩ := writtenItems_laid (List.cons_ne_nil u us) tidy.2
      have step := Laid.item blank_nil laid blank_nil rest
      exact ⟨o :: os, by simpa [writtenItems, Text.joined] using step, ordered, orderedRest⟩

theorem writtenMembers_laid {ms : List (Text × Value)} (some : ms ≠ [])
    (tidy : Value.EachMember Value.Tidy ms) :
    ∃ os, Laid (.members os) (Text.joined [','] (writtenMembers ms)) ∧ OrderedMembers os ∧
      List.Forall₂ Names os ms := by
  cases ms with
  | nil => contradiction
  | cons m ms =>
    obtain ⟨key, v⟩ := m
    obtain ⟨ps, pieces, spells⟩ := pieces_of_text (writtenString_spells key)
    obtain ⟨o, laid, ordered, said⟩ := written_laid tidy.1
    have names : Names (⟨ps, none⟩, o) (key, v) := ⟨spells, said⟩
    cases ms with
    | nil =>
      have single := Laid.lastMember blank_nil pieces blank_nil blank_nil laid blank_nil
      exact ⟨[(⟨ps, none⟩, o)], by simpa [writtenMembers, writtenString, Text.joined] using single,
        ⟨ordered, trivial⟩, .cons names .nil⟩
    | cons n ns =>
      obtain ⟨os, rest, orderedRest, namesRest⟩ :=
        writtenMembers_laid (List.cons_ne_nil n ns) tidy.2
      have step := Laid.member blank_nil pieces blank_nil blank_nil laid blank_nil rest
      exact ⟨(⟨ps, none⟩, o) :: os,
        by simpa [writtenMembers, writtenString, Text.joined] using step,
        ⟨ordered, orderedRest⟩, .cons names namesRest⟩

end

end Outline

end BookingRetry.Json
