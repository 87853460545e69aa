import BookingRetry.Candidate

/-!
Where a walk stands after so many moves from its start: its index is their remainder and its rounds
are their quotient by the length of the list, and a move comes back to the front exactly if its
number is a multiple of the length. A plain index that is set back where it equals the length goes
the same way, so it never points past the list; its rounds are counted in a machine word.
-/
namespace BookingRetry.Rotation

variable {α : Type}

structure StandsAt (r : Rotation α) (m : Nat) : Prop where
  index_eq : r.index = m % r.items.length
  wraps_eq : r.wraps = m / r.items.length

theorem length_positive (r : Rotation α) : 0 < r.items.length :=
  Nat.lt_of_le_of_lt (Nat.zero_le _) r.index_lt

theorem ofList?_eq_none {items : List α} (h : ofList? items = none) : items = [] := by
  unfold ofList? at h
  split at h
  · contradiction
  · rename_i empty
    exact List.length_eq_zero_iff.mp (by omega)

theorem ofList?_starts {items : List α} {r : Rotation α} (h : ofList? items = some r) :
    r.items = items ∧ r.StandsAt 0 := by
  unfold ofList? at h
  split at h
  · cases h
    exact ⟨rfl, (Nat.zero_mod _).symm, (Nat.zero_div _).symm⟩
  · contradiction

@[simp] theorem next_items (r : Rotation α) : r.next.items = r.items := by
  unfold next
  split <;> rfl

theorem next_standsAt {r : Rotation α} {m : Nat} (h : r.StandsAt m) : r.next.StandsAt (m + 1) := by
  have bound := length_positive r
  have split := Nat.div_add_mod m r.items.length
  rw [← h.index_eq, ← h.wraps_eq] at split
  unfold next
  split
  · rename_i inside
    have place : (m + 1) / r.items.length = r.wraps ∧ (m + 1) % r.items.length = r.index + 1 :=
      (Nat.div_mod_unique bound).mpr ⟨by omega, inside⟩
    exact ⟨place.2.symm, place.1.symm⟩
  · rename_i outside
    have full : r.index + 1 = r.items.length := by have := r.index_lt; omega
    have place : (m + 1) / r.items.length = r.wraps + 1 ∧ (m + 1) % r.items.length = 0 :=
      (Nat.div_mod_unique bound).mpr ⟨by rw [Nat.mul_succ]; omega, bound⟩
    exact ⟨place.2.symm, place.1.symm⟩

theorem current_at {r : Rotation α} {m : Nat} (h : r.StandsAt m) :
    r.items[m % r.items.length]? = some r.current := by
  rw [← h.index_eq, List.getElem?_eq_getElem r.index_lt]
  rfl

theorem atLast_iff (r : Rotation α) : r.atLast = true ↔ r.index + 1 = r.items.length := by
  simp [atLast]

theorem atLast_iff_dvd {r : Rotation α} {m : Nat} (h : r.StandsAt m) :
    r.atLast = true ↔ r.items.length ∣ m + 1 := by
  have split := Nat.div_add_mod m r.items.length
  have inside := r.index_lt
  rw [← h.index_eq] at split
  rw [atLast_iff, ← split, Nat.add_assoc, Nat.dvd_add_right (Nat.dvd_mul_right _ _)]
  constructor
  · intro last
    exact last ▸ Nat.dvd_refl _
  · intro divides
    have large := Nat.le_of_dvd (Nat.succ_pos _) divides
    omega

theorem index_of_first_round {r : Rotation α} {m : Nat} (h : r.StandsAt m)
    (first : m < r.items.length) : r.index = m := by
  rw [h.index_eq, Nat.mod_eq_of_lt first]

/-! ### Rounds -/

variable {items : List α} {r : Rotation α} {k : Nat}

def after (r : Rotation α) : Nat → Rotation α
  | 0 => r
  | m + 1 => (r.after m).next

/-- A walk by a plain index and a word for its rounds. Nothing keeps the index inside the list, and
the word starts over once it is full. -/
structure Plain (α : Type) where
  items : List α
  index : Nat
  wraps : UInt64

namespace Plain

def start (items : List α) : Plain α := ⟨items, 0, 0⟩

def current? (p : Plain α) : Option α := p.items[p.index]?

def advance (p : Plain α) : Bool × Plain α :=
  let index := p.index + 1
  if index = p.items.length then (true, { p with index := 0, wraps := p.wraps + 1 })
  else (false, { p with index })

def advanced (p : Plain α) : Nat → Option Bool × Plain α
  | 0 => (none, p)
  | m + 1 =>
    let moved := (p.advanced m).2.advance
    (some moved.1, moved.2)

end Plain

def plain (r : Rotation α) : Plain α := ⟨r.items, r.index, .ofNat r.wraps⟩

theorem plain_current? (r : Rotation α) : r.plain.current? = some r.current :=
  List.getElem?_eq_getElem r.index_lt

theorem plain_advance (r : Rotation α) : r.plain.advance = (r.atLast, r.next.plain) := by
  -- Inside the list the index comes to equal the length exactly where it would leave.
  have inside := r.index_lt
  by_cases last : r.index + 1 = r.items.length
  · simp [Plain.advance, plain, atLast, next, last]
  · have more : r.index + 1 < r.items.length := by omega
    simp [Plain.advance, plain, atLast, next, last, more]

@[simp] theorem after_items (r : Rotation α) (m : Nat) : (r.after m).items = r.items := by
  induction m with
  | zero => rfl
  | succ m ih => rw [after, next_items, ih]

theorem after_standsAt (h : r.StandsAt k) (m : Nat) : (r.after m).StandsAt (k + m) := by
  induction m with
  | zero => exact h
  | succ m ih => exact next_standsAt ih

def answer (items : List α) : Nat → Option Bool
  | 0 => none
  | m + 1 => some (decide (items.length ∣ m + 1))

theorem answer_succ (h : (r.after k).StandsAt k) :
    answer r.items (k + 1) = some (r.after k).atLast := by
  have divides := atLast_iff_dvd h
  rw [after_items] at divides
  have same : decide (r.items.length ∣ k + 1) = (r.after k).atLast := by
    rw [Bool.eq_iff_iff, decide_eq_true_iff, divides]
  rw [answer, same]

theorem plain_advanced (h : r.StandsAt 0) (m : Nat) :
    r.plain.advanced m = (answer r.items m, (r.after m).plain) := by
  induction m with
  | zero => rfl
  | succ m ih =>
    have stands := after_standsAt h m
    rw [Nat.zero_add] at stands
    rw [Plain.advanced, ih, plain_advance, answer_succ stands]
    rfl

/-- Where a plain walk round a list stands after `m` moves from its start. -/
structure ClosedForm (items : List α) (m : Nat) : Prop where
  items_kept : ((Plain.start items).advanced m).2.items = items
  index_eq : ((Plain.start items).advanced m).2.index = m % items.length
  wraps_eq : m / items.length ≤ Numeral.maxWord →
    ((Plain.start items).advanced m).2.wraps.toNat = m / items.length
  wraps_mod : ((Plain.start items).advanced m).2.wraps = .ofNat (m / items.length)
  wrapped_iff : 1 ≤ m →
    (((Plain.start items).advanced m).1 = some true ↔ items.length ∣ m) ∧
      ((Plain.start items).advanced m).1 ≠ none
  inside : ∃ item, ((Plain.start items).advanced m).2.current? = some item ∧
    items[m % items.length]? = some item

/-- The walk whose index is known to be inside goes the same way, and its count is the word for as
long as a word can be. -/
structure GoesAlike (start : Rotation α) (items : List α) (m : Nat) : Prop where
  plain_eq : ((Plain.start items).advanced m).2 = (start.after m).plain
  current_eq : ((Plain.start items).advanced m).2.current? = some (start.after m).current
  answer_eq : ∀ k, m = k + 1 →
    ((Plain.start items).advanced m).1 = some (start.after k).atLast
  wraps_eq : (start.after m).wraps ≤ Numeral.maxWord →
    ((Plain.start items).advanced m).2.wraps.toNat = (start.after m).wraps

theorem start_plain (h : ofList? items = some r) : r.plain = Plain.start items := by
  unfold ofList? at h
  split at h
  · cases h
    rfl
  · contradiction

theorem ofList?_isSome (nonempty : items ≠ []) : ∃ r, ofList? items = some r := by
  cases eq : ofList? items with
  | none => exact absurd (ofList?_eq_none eq) nonempty
  | some r => exact ⟨r, rfl⟩

theorem toNat_ofNat_of_le_maxWord {n : Nat} (fits : n ≤ Numeral.maxWord) :
    (UInt64.ofNat n).toNat = n :=
  UInt64.toNat_ofNat_of_lt (Nat.lt_of_le_pred (by decide) fits)

/-- Round every list that is not empty there is a walk, and its moves have a closed form. -/
theorem walk_in_rounds (nonempty : items ≠ []) (m : Nat) :
    ClosedForm items m ∧ ∃ start, ofList? items = some start ∧ GoesAlike start items m := by
  obtain ⟨start, begins⟩ := ofList?_isSome nonempty
  obtain ⟨same, stands⟩ := ofList?_starts begins
  have after_stands : ∀ m, (start.after m).StandsAt m := by
    intro m
    have moved := after_standsAt stands m
    rwa [Nat.zero_add] at moved
  have kept : (start.after m).items = items := by rw [after_items, same]
  have place := current_at (after_stands m)
  have index := (after_stands m).index_eq
  have wraps := (after_stands m).wraps_eq
  rw [kept] at place index wraps
  have led : (Plain.start items).advanced m = (answer items m, (start.after m).plain) := by
    rw [← start_plain begins, plain_advanced stands, same]
  have word : ((Plain.start items).advanced m).2.wraps = .ofNat (m / items.length) := by
    rw [led, ← wraps]
    rfl
  refine ⟨⟨?kept, ?index, ?wraps, word, ?wrapped, ?inside⟩, start, begins,
    ⟨?plain, ?current, ?answer, ?alike⟩⟩
  case kept => rwa [led]
  case index => rwa [led]
  case wraps =>
    intro fits
    rw [word, toNat_ofNat_of_le_maxWord fits]
  case wrapped =>
    intro moved
    obtain ⟨k, rfl⟩ := Nat.exists_eq_add_of_le' moved
    rw [led]
    simp [answer]
  case inside =>
    rw [led]
    exact ⟨_, plain_current? _, place⟩
  case plain => rw [led]
  case current =>
    rw [led]
    exact plain_current? _
  case answer =>
    rintro k rfl
    rw [led, ← same, answer_succ (after_stands k)]
  case alike =>
    intro fits
    rw [word, ← wraps, toNat_ofNat_of_le_maxWord fits]

theorem three_items_in_rounds : ['a', 'b', 'c'] ≠ [] ∧
    (∃ start, ofList? ['a', 'b', 'c'] = some start ∧ GoesAlike start ['a', 'b', 'c'] 7) ∧
    (Plain.start ['a', 'b', 'c']).advanced 3 = (some true, ⟨['a', 'b', 'c'], 0, 1⟩) ∧
    (Plain.start ['a', 'b', 'c']).advanced 7 = (some false, ⟨['a', 'b', 'c'], 1, 2⟩) :=
  ⟨by decide, (walk_in_rounds (by decide) 7).2, rfl, rfl⟩

end BookingRetry.Rotation
