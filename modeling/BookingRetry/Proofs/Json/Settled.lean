import Mathlib.Data.List.Forall2
import BookingRetry.Proofs.Json.Order
import BookingRetry.Text.Numeral

/-!
A value as it is written, and the value that is kept of it: in every object, at any depth, the
member that stands last under its key, and the keys in order. A value that has been kept stays as it
is.
-/
namespace BookingRetry.Json

namespace Value

mutual

def nesting : Value → Nat
  | .array items => nestingItems items + 1
  | .object members => nestingMembers members + 1
  | _ => 0

def nestingItems : List Value → Nat
  | [] => 0
  | v :: vs => max v.nesting (nestingItems vs)

def nestingMembers : List (Text × Value) → Nat
  | [] => 0
  | (_, v) :: ms => max v.nesting (nestingMembers ms)

end

/-- The second value is what is kept of the first one. -/
inductive Settles : Value → Value → Prop where
  | null : Settles .null .null
  | bool (b : Bool) : Settles (.bool b) (.bool b)
  | number (n : Number) : Settles (.number n) (.number n)
  | string (t : Text) : Settles (.string t) (.string t)
  | array {vs us : List Value} (items : List.Forall₂ Settles vs us) :
      Settles (.array vs) (.array us)
  | object {ms ns : Members} (increasing : ns.Increasing)
      (members : ∀ key, Option.Rel Settles (ms.last? key) (ns.first? key)) :
      Settles (.object ms) (.object ns)

mutual

def settled : Value → Value
  | .array items => .array (settledItems items)
  | .object members => .object (Members.ordered (settledMembers members))
  | v => v

def settledItems : List Value → List Value
  | [] => []
  | v :: vs => v.settled :: settledItems vs

def settledMembers : List (Text × Value) → List (Text × Value)
  | [] => []
  | (key, v) :: ms => (key, v.settled) :: settledMembers ms

end

theorem last?_settledMembers (key : Text) (ms : Members) :
    Members.last? key (settledMembers ms) = (ms.last? key).map settled := by
  induction ms with
  | nil => rfl
  | cons m ms ih =>
    obtain ⟨k, v⟩ := m
    unfold settledMembers
    rw [Members.last?_cons, Members.last?_cons, ih]
    cases Members.last? key ms <;> dsimp only <;> split <;> rfl

mutual

theorem settles_settled (v : Value) : v.Settles v.settled := by
  cases v with
  | null => exact .null
  | bool b => exact .bool b
  | number n => exact .number n
  | string t => exact .string t
  | array items => exact .array (settles_settledItems items)
  | object members =>
    refine .object (Members.increasing_ordered _) ?_
    intro key
    rw [Members.first?_ordered, last?_settledMembers]
    exact settles_last key members

theorem settles_settledItems (vs : List Value) : List.Forall₂ Settles vs (settledItems vs) := by
  cases vs with
  | nil => exact .nil
  | cons v vs => exact .cons (settles_settled v) (settles_settledItems vs)

theorem settles_last (key : Text) (ms : List (Text × Value)) :
    Option.Rel Settles (Members.last? key ms) ((Members.last? key ms).map settled) := by
  cases ms with
  | nil => exact .none
  | cons m ms =>
    obtain ⟨k, v⟩ := m
    have here := settles_settled v
    have rest := settles_last key ms
    rw [Members.last?_cons]
    cases last : Members.last? key ms with
    | some u =>
      rw [last] at rest
      exact rest
    | none =>
      dsimp only
      split
      · exact .some here
      · exact .none

end

mutual

/-- Nothing else is kept of a value. -/
theorem eq_settled {v u : Value} (settles : v.Settles u) : u = v.settled := by
  cases v with
  | null | bool | number | string =>
    cases settles
    rfl
  | array items =>
    cases settles with
    | array inside => rw [settled, eq_settledItems inside]
  | object members =>
    cases settles with
    | @object _ ns increasing inside =>
      have same : ns = Members.ordered (settledMembers members) := by
        refine Members.eq_of_first? increasing (Members.increasing_ordered _) ?_
        intro key
        rw [Members.first?_ordered, last?_settledMembers]
        exact eq_settled_last key members (inside key)
      rw [settled, same]

theorem eq_settledItems {vs us : List Value} (settles : List.Forall₂ Settles vs us) :
    us = settledItems vs := by
  cases vs with
  | nil =>
    cases settles
    rfl
  | cons v vs =>
    cases settles with
    | cons first rest => rw [settledItems, eq_settled first, eq_settledItems rest]

theorem eq_settled_last (key : Text) (ms : List (Text × Value)) {x : Option Value}
    (settles : Option.Rel Settles (Members.last? key ms) x) :
    x = (Members.last? key ms).map settled := by
  cases ms with
  | nil =>
    cases settles
    rfl
  | cons m ms =>
    obtain ⟨k, v⟩ := m
    have here : ∀ u, v.Settles u → u = v.settled := fun u => eq_settled
    have rest : ∀ x, Option.Rel Settles (Members.last? key ms) x →
        x = (Members.last? key ms).map settled := fun x => eq_settled_last key ms
    rw [Members.last?_cons] at settles ⊢
    cases last : Members.last? key ms with
    | some u =>
      rw [last] at settles rest
      exact rest x settles
    | none =>
      rw [last] at settles
      dsimp only at settles ⊢
      split at settles
      · rename_i own
        rw [if_pos own]
        cases settles with
        | some kept => exact congrArg some (here _ kept)
      · rename_i other
        rw [if_neg other]
        cases settles
        rfl

end

mutual

def Each (P : Value → Prop) : Value → Prop
  | .array items => P (.array items) ∧ EachItem P items
  | .object members => P (.object members) ∧ EachMember P members
  | v => P v

def EachItem (P : Value → Prop) : List Value → Prop
  | [] => True
  | v :: vs => v.Each P ∧ EachItem P vs

def EachMember (P : Value → Prop) : List (Text × Value) → Prop
  | [] => True
  | (_, v) :: ms => v.Each P ∧ EachMember P ms

end

/-- Whole numbers have sixty-four bits, and members are in order. -/
def Tidy : Value → Prop
  | .number (.whole n) => -(Nat.pow 2 63 : Int) ≤ n ∧ n ≤ Numeral.maxWord
  | .object ms => Members.Increasing ms
  | _ => True

def Exact : Value → Prop
  | .number (.binary _ _) => False
  | _ => True

def Whole : Value → Prop
  | .number (.whole n) => -(Nat.pow 2 63 : Int) ≤ n ∧ n ≤ Numeral.maxWord
  | .number (.binary _ _) => False
  | _ => True

theorem whole_of_tidy (v : Value) (tidy : v.Tidy) (exact : v.Exact) : v.Whole := by
  cases v with
  | number n =>
    cases n with
    | whole n => exact tidy
    | binary => exact exact
  | null | bool | string | array | object => trivial

variable {P Q R : Value → Prop}

mutual

theorem each_both (both : ∀ v, P v → Q v → R v) {v : Value} (p : v.Each P) (q : v.Each Q) :
    v.Each R := by
  cases v with
  | null | bool | number | string => exact both _ p q
  | array items => exact ⟨both _ p.1 q.1, eachItem_both both p.2 q.2⟩
  | object members => exact ⟨both _ p.1 q.1, eachMember_both both p.2 q.2⟩

theorem eachItem_both (both : ∀ v, P v → Q v → R v) {vs : List Value} (p : EachItem P vs)
    (q : EachItem Q vs) : EachItem R vs := by
  cases vs with
  | nil => trivial
  | cons v vs => exact ⟨each_both both p.1 q.1, eachItem_both both p.2 q.2⟩

theorem eachMember_both (both : ∀ v, P v → Q v → R v) {ms : List (Text × Value)}
    (p : EachMember P ms) (q : EachMember Q ms) : EachMember R ms := by
  cases ms with
  | nil => trivial
  | cons m ms =>
    obtain ⟨key, v⟩ := m
    exact ⟨each_both both p.1 q.1, eachMember_both both p.2 q.2⟩

end

theorem eachMember_iff {ms : Members} : EachMember P ms ↔ ∀ m ∈ ms, m.2.Each P := by
  induction ms with
  | nil => simp [EachMember]
  | cons m ms ih =>
    obtain ⟨key, v⟩ := m
    unfold EachMember
    rw [ih, List.forall_mem_cons]

theorem nestingMembers_le_iff {ms : Members} {n : Nat} :
    nestingMembers ms ≤ n ↔ ∀ m ∈ ms, m.2.nesting ≤ n := by
  induction ms with
  | nil => simp [nestingMembers]
  | cons m ms ih =>
    obtain ⟨key, v⟩ := m
    unfold nestingMembers
    rw [Nat.max_le, ih, List.forall_mem_cons]

mutual

theorem settled_of_tidy {v : Value} (tidy : v.Each Tidy) : v.settled = v := by
  cases v with
  | null | bool | number | string => rfl
  | array items =>
    unfold settled
    rw [settledItems_of_tidy tidy.2]
  | object members =>
    unfold settled
    rw [settledMembers_of_tidy tidy.2, Members.ordered_of_increasing tidy.1]

theorem settledItems_of_tidy {vs : List Value} (tidy : EachItem Tidy vs) :
    settledItems vs = vs := by
  cases vs with
  | nil => rfl
  | cons v vs =>
    unfold settledItems
    rw [settled_of_tidy tidy.1, settledItems_of_tidy tidy.2]

theorem settledMembers_of_tidy {ms : List (Text × Value)} (tidy : EachMember Tidy ms) :
    settledMembers ms = ms := by
  cases ms with
  | nil => rfl
  | cons m ms =>
    obtain ⟨key, v⟩ := m
    unfold settledMembers
    rw [settled_of_tidy tidy.1, settledMembers_of_tidy tidy.2]

end

end Value

end BookingRetry.Json
