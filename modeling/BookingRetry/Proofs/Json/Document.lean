import BookingRetry.Json.Reader
import BookingRetry.Proofs.Json.Settled

/-!
What an outline says if nothing is missing from it, and what readers make of such an outline: it is
passed over without a fault, its value is what is kept of what it says, and it is a text only if it
says one. Whatever a value is read from, its numbers and its members are in order, and it is not
nested too deep.
-/
namespace BookingRetry.Json

theorem map_ok {ε α β : Type} {x : Except ε α} {f : α → β} {b : β} (h : x.map f = .ok b) :
    ∃ a, x = .ok a ∧ f a = b := by
  cases x with
  | error e => contradiction
  | ok a =>
    cases h
    exact ⟨a, rfl, rfl⟩

namespace Outline

mutual

/-- The value that an outline says, with all members as they are written; none if it is not
whole. -/
def said? : Outline → Option Value
  | .null => some .null
  | .bool b => some (.bool b)
  | .number f => f.number?.map .number
  | .string q => q.text.toOption.map .string
  | .array items none => (saidItems? items).map .array
  | .object members none => (saidMembers? members).map .object
  | _ => none

def saidItems? : List Outline → Option (List Value)
  | [] => some []
  | o :: os => o.said?.bind fun v => (saidItems? os).map (v :: ·)

def saidMembers? : List (Quoted × Outline) → Option (List (Text × Value))
  | [] => some []
  | (key, o) :: ms =>
    key.text.toOption.bind fun key => o.said?.bind fun v => (saidMembers? ms).map ((key, v) :: ·)

end

theorem text_of_toOption {q : Quoted} {t : Text} (h : q.text.toOption = some t) :
    q.text = .ok t := by
  cases read : q.text with
  | error f =>
    rw [read] at h
    contradiction
  | ok u =>
    rw [read] at h
    cases h
    rfl

theorem said?_array {items : List Outline} {fault : Option Fault} {v : Value}
    (said : (Outline.array items fault).said? = some v) :
    fault = none ∧ ∃ vs, v = .array vs ∧ saidItems? items = some vs := by
  cases fault with
  | some f => contradiction
  | none =>
    obtain ⟨vs, inside, rfl⟩ := Option.map_eq_some_iff.mp said
    exact ⟨rfl, vs, rfl, inside⟩

theorem said?_object {members : List (Quoted × Outline)} {fault : Option Fault} {v : Value}
    (said : (Outline.object members fault).said? = some v) :
    fault = none ∧ ∃ ms, v = .object ms ∧ saidMembers? members = some ms := by
  cases fault with
  | some f => contradiction
  | none =>
    obtain ⟨ms, inside, rfl⟩ := Option.map_eq_some_iff.mp said
    exact ⟨rfl, ms, rfl, inside⟩

theorem number_of_said {o : Outline} {n : Number} (said : o.said? = some (.number n)) :
    ∃ f, o = .number f ∧ f.number? = some n := by
  cases o with
  | number f =>
    obtain ⟨m, number, same⟩ := Option.map_eq_some_iff.mp said
    cases same
    exact ⟨f, rfl, number⟩
  | string q =>
    obtain ⟨t, _, other⟩ := Option.map_eq_some_iff.mp said
    contradiction
  | array items fault =>
    obtain ⟨_, vs, other, _⟩ := said?_array said
    contradiction
  | object members fault =>
    obtain ⟨_, ms, other, _⟩ := said?_object said
    contradiction
  | null | bool => cases said
  | cutNumber | broken => contradiction

theorem array_of_said {o : Outline} {vs : List Value} (said : o.said? = some (.array vs)) :
    ∃ os, o = .array os none ∧ saidItems? os = some vs := by
  cases o with
  | array items fault =>
    obtain ⟨rfl, us, same, inside⟩ := said?_array said
    cases same
    exact ⟨items, rfl, inside⟩
  | number | string =>
    obtain ⟨_, _, other⟩ := Option.map_eq_some_iff.mp said
    contradiction
  | object members fault =>
    obtain ⟨_, ms, other, _⟩ := said?_object said
    contradiction
  | null | bool => cases said
  | cutNumber | broken => contradiction

theorem object_of_said {o : Outline} {ms : Members} (said : o.said? = some (.object ms)) :
    ∃ os, o = .object os none ∧ saidMembers? os = some ms := by
  cases o with
  | object members fault =>
    obtain ⟨rfl, ns, same, inside⟩ := said?_object said
    cases same
    exact ⟨members, rfl, inside⟩
  | number | string =>
    obtain ⟨_, _, other⟩ := Option.map_eq_some_iff.mp said
    contradiction
  | array items fault =>
    obtain ⟨_, vs, other, _⟩ := said?_array said
    contradiction
  | null | bool => cases said
  | cutNumber | broken => contradiction

theorem saidItems?_cons {o : Outline} {os : List Outline} {vs : List Value}
    (said : saidItems? (o :: os) = some vs) :
    ∃ v us, vs = v :: us ∧ o.said? = some v ∧ saidItems? os = some us := by
  simp only [saidItems?, Option.bind_eq_some_iff, Option.map_eq_some_iff] at said
  obtain ⟨v, first, us, rest, rfl⟩ := said
  exact ⟨v, us, rfl, first, rest⟩

theorem saidMembers?_cons {q : Quoted} {o : Outline} {os : List (Quoted × Outline)} {ms : Members}
    (said : saidMembers? ((q, o) :: os) = some ms) :
    ∃ key v ns, ms = (key, v) :: ns ∧ q.text = .ok key ∧ o.said? = some v ∧
      saidMembers? os = some ns := by
  simp only [saidMembers?, Option.bind_eq_some_iff, Option.map_eq_some_iff] at said
  obtain ⟨key, name, v, first, ns, rest, rfl⟩ := said
  exact ⟨key, v, ns, rfl, text_of_toOption name, first, rest⟩

/-! ### Readers of an outline that is whole -/

theorem spelled_fault {fault : Option Fault} {ps : List Piece} {t : Text}
    (h : spelled fault ps = .ok t) : fault = none := by
  fun_induction spelled fault ps generalizing t with
  | case1 => assumption
  | case2 => contradiction
  | case3 c ps ih =>
    obtain ⟨u, read, _⟩ := map_ok h
    exact ih read
  | case5 n notLow high m ps low ih =>
    obtain ⟨u, read, _⟩ := map_ok h
    exact ih read
  | case9 n ps notLow notHigh ih =>
    obtain ⟨u, read, _⟩ := map_ok h
    exact ih read
  | case4 | case6 | case7 | case8 => contradiction

mutual

theorem skim_of_said {o : Outline} {v : Value} (said : o.said? = some v) : o.skim = none := by
  cases o with
  | null | bool | number => rfl
  | cutNumber | broken => contradiction
  | string q =>
    simp only [said?, Option.map_eq_some_iff] at said
    obtain ⟨t, text, _⟩ := said
    exact spelled_fault (text_of_toOption text)
  | array items fault =>
    obtain ⟨rfl, vs, rfl, inside⟩ := said?_array said
    unfold skim
    rw [skimItems_of_said inside]
    rfl
  | object members fault =>
    obtain ⟨rfl, ms, rfl, inside⟩ := said?_object said
    unfold skim
    rw [skimMembers_of_said inside]
    rfl

theorem skimItems_of_said {os : List Outline} {vs : List Value} (said : saidItems? os = some vs) :
    skimItems os = none := by
  cases os with
  | nil => rfl
  | cons o os =>
    obtain ⟨v, us, _, first, rest⟩ := saidItems?_cons said
    unfold skimItems
    rw [skim_of_said first, skimItems_of_said rest]
    rfl

theorem skimMembers_of_said {os : List (Quoted × Outline)} {ms : List (Text × Value)}
    (said : saidMembers? os = some ms) : skimMembers os = none := by
  cases os with
  | nil => rfl
  | cons m os =>
    obtain ⟨q, o⟩ := m
    obtain ⟨key, v, ns, _, name, first, rest⟩ := saidMembers?_cons said
    have fault : q.fault = none := spelled_fault name
    unfold skimMembers
    rw [fault, skim_of_said first, skimMembers_of_said rest]
    rfl

end

mutual

theorem value_of_said {o : Outline} {v : Value} {d : Nat} (said : o.said? = some v)
    (shallow : d + v.nesting ≤ maxDepth) : o.value d = .ok v.settled := by
  cases o with
  | null | bool =>
    cases said
    rfl
  | cutNumber | broken => contradiction
  | number f =>
    simp only [said?, Option.map_eq_some_iff] at said
    obtain ⟨n, number, rfl⟩ := said
    unfold value
    rw [number]
    rfl
  | string q =>
    simp only [said?, Option.map_eq_some_iff] at said
    obtain ⟨t, text, rfl⟩ := said
    unfold value
    rw [text_of_toOption text]
    rfl
  | array items fault =>
    obtain ⟨rfl, vs, rfl, inside⟩ := said?_array said
    unfold Value.nesting at shallow
    unfold value
    rw [if_neg (by omega), valueItems_of_said inside (by omega)]
    rfl
  | object members fault =>
    obtain ⟨rfl, ms, rfl, inside⟩ := said?_object said
    unfold Value.nesting at shallow
    unfold value
    rw [if_neg (by omega), valueMembers_of_said inside (by omega)]
    rfl

theorem valueItems_of_said {os : List Outline} {vs : List Value} {d : Nat}
    (said : saidItems? os = some vs) (shallow : d + Value.nestingItems vs ≤ maxDepth) :
    valueItems d os = .ok (Value.settledItems vs) := by
  cases os with
  | nil =>
    cases said
    rfl
  | cons o os =>
    obtain ⟨v, us, rfl, first, rest⟩ := saidItems?_cons said
    unfold Value.nestingItems at shallow
    unfold valueItems
    rw [value_of_said first (by omega), valueItems_of_said rest (by omega)]
    rfl

theorem valueMembers_of_said {os : List (Quoted × Outline)} {ms : List (Text × Value)} {d : Nat}
    (said : saidMembers? os = some ms) (shallow : d + Value.nestingMembers ms ≤ maxDepth) :
    valueMembers d os = .ok (Value.settledMembers ms) := by
  cases os with
  | nil =>
    cases said
    rfl
  | cons m os =>
    obtain ⟨q, o⟩ := m
    obtain ⟨key, v, ns, rfl, name, first, rest⟩ := saidMembers?_cons said
    unfold Value.nestingMembers at shallow
    unfold valueMembers
    rw [name]
    dsimp only
    rw [value_of_said first (by omega), valueMembers_of_said rest (by omega)]
    rfl

end

theorem text_ok_iff {o : Outline} {v : Value} (said : o.said? = some v) (t : Text) :
    o.text = .ok t ↔ v = .string t := by
  cases o with
  | string q =>
    simp only [said?, Option.map_eq_some_iff] at said
    obtain ⟨u, spelled, rfl⟩ := said
    simp [text, text_of_toOption spelled]
  | cutNumber | broken => contradiction
  | null | bool =>
    cases said
    exact ⟨nofun, nofun⟩
  | number f =>
    simp only [said?, Option.map_eq_some_iff] at said
    obtain ⟨n, _, rfl⟩ := said
    exact ⟨nofun, nofun⟩
  | array items fault =>
    obtain ⟨_, vs, rfl, _⟩ := said?_array said
    exact ⟨nofun, nofun⟩
  | object members fault =>
    obtain ⟨_, ms, rfl, _⟩ := said?_object said
    exact ⟨nofun, nofun⟩

/-! ### Whatever a value is read from -/

theorem number?_inRange {f : Figure} {n : Number} (read : f.number? = some n) :
    (Value.number n).Tidy := by
  unfold Figure.number? at read
  dsimp only at read
  split at read
  · rename_i fits
    simp only [Bool.and_eq_true, decide_eq_true_eq] at fits
    cases read
    exact ⟨by omega, by exact_mod_cast fits.2⟩
  split at read
  · rename_i fits
    simp only [Bool.and_eq_true, decide_eq_true_eq] at fits
    cases read
    exact ⟨by omega, by omega⟩
  · obtain ⟨x, _, rfl⟩ := Option.map_eq_some_iff.mp read
    trivial

mutual

theorem value_tidy {o : Outline} {v : Value} {d : Nat} (read : o.value d = .ok v)
    (room : d ≤ maxDepth) : v.Each Value.Tidy ∧ d + v.nesting ≤ maxDepth := by
  cases o with
  | null | bool =>
    cases read
    exact ⟨trivial, room⟩
  | cutNumber | broken => contradiction
  | number f =>
    unfold value at read
    split at read
    · rename_i n number
      cases read
      exact ⟨number?_inRange number, room⟩
    · contradiction
  | string q =>
    obtain ⟨t, _, rfl⟩ := map_ok read
    exact ⟨trivial, room⟩
  | array items fault =>
    unfold value at read
    split at read
    · contradiction
    split at read
    case h_2 => contradiction
    rename_i deep _ vs inside
    cases fault with
    | some f => contradiction
    | none =>
      cases read
      obtain ⟨tidy, shallow⟩ := valueItems_tidy inside (by omega)
      refine ⟨⟨trivial, tidy⟩, ?_⟩
      unfold Value.nesting
      omega
  | object members fault =>
    unfold value at read
    split at read
    · contradiction
    split at read
    case h_2 => contradiction
    rename_i deep _ ms inside
    cases fault with
    | some f => contradiction
    | none =>
      cases read
      obtain ⟨tidy, shallow⟩ := valueMembers_tidy inside (by omega)
      refine ⟨⟨Members.increasing_ordered ms, ?_⟩, ?_⟩
      · rw [Value.eachMember_iff] at tidy ⊢
        exact Members.forall_ordered tidy
      · have below : Value.nestingMembers ms ≤ maxDepth - (d + 1) := by omega
        rw [Value.nestingMembers_le_iff] at below
        have kept := Value.nestingMembers_le_iff.mpr (Members.forall_ordered below)
        unfold Value.nesting
        omega

theorem valueItems_tidy {os : List Outline} {vs : List Value} {d : Nat}
    (read : valueItems d os = .ok vs) (room : d ≤ maxDepth) :
    Value.EachItem Value.Tidy vs ∧ d + Value.nestingItems vs ≤ maxDepth := by
  cases os with
  | nil =>
    cases read
    exact ⟨trivial, room⟩
  | cons o os =>
    unfold valueItems at read
    split at read
    case h_2 => contradiction
    rename_i v first
    obtain ⟨us, rest, rfl⟩ := map_ok read
    obtain ⟨tidy, shallow⟩ := value_tidy first room
    obtain ⟨tidyRest, shallowRest⟩ := valueItems_tidy rest room
    refine ⟨⟨tidy, tidyRest⟩, ?_⟩
    unfold Value.nestingItems
    omega

theorem valueMembers_tidy {os : List (Quoted × Outline)} {ms : Members} {d : Nat}
    (read : valueMembers d os = .ok ms) (room : d ≤ maxDepth) :
    Value.EachMember Value.Tidy ms ∧ d + Value.nestingMembers ms ≤ maxDepth := by
  cases os with
  | nil =>
    cases read
    exact ⟨trivial, room⟩
  | cons m os =>
    obtain ⟨q, o⟩ := m
    unfold valueMembers at read
    split at read
    · contradiction
    split at read
    case h_2 => contradiction
    rename_i v first
    obtain ⟨ns, rest, rfl⟩ := map_ok read
    obtain ⟨tidy, shallow⟩ := value_tidy first room
    obtain ⟨tidyRest, shallowRest⟩ := valueMembers_tidy rest room
    refine ⟨⟨tidy, tidyRest⟩, ?_⟩
    unfold Value.nestingMembers
    omega

end

end Outline

end BookingRetry.Json
