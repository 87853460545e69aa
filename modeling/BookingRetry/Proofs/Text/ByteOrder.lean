import BookingRetry.Proofs.Json.Order
import BookingRetry.Proofs.Text.Utf8

/-!
The order of two texts by their code points is the order of their bytes in UTF-8.
-/
namespace BookingRetry.Text

theorem cons_byte_lt_iff {m n : Nat} (fits : m < 256) (fits' : n < 256) (x y : Bytes) :
    m.toUInt8 :: x < n.toUInt8 :: y ↔ m < n ∨ m = n ∧ x < y := by
  rw [List.cons_lt_cons_iff, UInt8.lt_iff_toNat_lt, ← UInt8.toNat_inj, Utf8.byte_toNat fits,
    Utf8.byte_toNat fits']

theorem encodeChar_cases (c : Char) :
    (c.toNat < 0x80 ∧ Utf8.encodeChar c = [c.toNat.toUInt8]) ∨
    (0x80 ≤ c.toNat ∧ c.toNat < 0x800 ∧ Utf8.encodeChar c =
      [(0xC0 + c.toNat / 0x40).toUInt8, (0x80 + c.toNat % 0x40).toUInt8]) ∨
    (0x800 ≤ c.toNat ∧ c.toNat < 0x10000 ∧ Utf8.encodeChar c =
      [(0xE0 + c.toNat / 0x1000).toUInt8, (0x80 + c.toNat / 0x40 % 0x40).toUInt8,
       (0x80 + c.toNat % 0x40).toUInt8]) ∨
    (0x10000 ≤ c.toNat ∧ c.toNat < 0x110000 ∧ Utf8.encodeChar c =
      [(0xF0 + c.toNat / 0x40000).toUInt8, (0x80 + c.toNat / 0x1000 % 0x40).toUInt8,
       (0x80 + c.toNat / 0x40 % 0x40).toUInt8, (0x80 + c.toNat % 0x40).toUInt8]) := by
  have range := Utf8.char_range c
  unfold Utf8.encodeChar
  dsimp only
  split
  · exact .inl ⟨by omega, rfl⟩
  split
  · exact .inr (.inl ⟨by omega, by omega, rfl⟩)
  split
  · exact .inr (.inr (.inl ⟨by omega, by omega, rfl⟩))
  · exact .inr (.inr (.inr ⟨by omega, by omega, rfl⟩))

/-- The bytes of a character of a smaller number come first, whatever follows them. -/
theorem encodeChar_lt {c d : Char} (less : c.toNat < d.toNat) (x y : Bytes) :
    Utf8.encodeChar c ++ x < Utf8.encodeChar d ++ y := by
  rcases encodeChar_cases c with ⟨_, bytes⟩ | ⟨_, _, bytes⟩ | ⟨_, _, bytes⟩ | ⟨_, _, bytes⟩
  all_goals
    rcases encodeChar_cases d with ⟨_, bytes'⟩ | ⟨_, _, bytes'⟩ | ⟨_, _, bytes'⟩ | ⟨_, _, bytes'⟩
  all_goals
    by_cases behind : x < y
    all_goals
      simp (disch := omega) only [bytes, bytes', List.cons_append, List.nil_append,
        cons_byte_lt_iff, behind, and_true, and_false, or_false]
      omega

theorem encode_lt_of_order {a b : Text} (before : order a b = .lt) :
    Utf8.encode a < Utf8.encode b := by
  induction a generalizing b with
  | nil =>
    cases b with
    | nil => contradiction
    | cons d ds =>
      have some : Utf8.encode (d :: ds) ≠ [] := by
        intro none
        rcases encodeChar_cases d with ⟨_, bytes⟩ | ⟨_, _, bytes⟩ | ⟨_, _, bytes⟩ | ⟨_, _, bytes⟩
        all_goals simp [Utf8.encode, bytes] at none
      obtain ⟨x, xs, eq⟩ := List.exists_cons_of_ne_nil some
      rw [eq]
      exact List.nil_lt_cons x xs
  | cons c cs ih =>
    cases b with
    | nil => contradiction
    | cons d ds =>
      simp only [order, Ordering.then_eq_lt, Nat.compare_eq_lt, Nat.compare_eq_eq] at before
      simp only [Utf8.encode, List.flatMap_cons]
      rcases before with less | ⟨same, behind⟩
      · exact encodeChar_lt less _ _
      · rw [Char.toNat_inj.mp same]
        exact List.append_left_lt (ih behind)

theorem order_eq_lt_iff (a b : Text) : order a b = .lt ↔ Utf8.encode a < Utf8.encode b := by
  constructor
  · exact encode_lt_of_order
  · intro less
    cases place : order a b with
    | lt => rfl
    | eq =>
      rw [order_eq_iff.mp place] at less
      exact absurd less (List.lt_irrefl _)
    | gt =>
      have more := encode_lt_of_order (order_gt_iff.mp place)
      exact absurd (List.lt_trans less more) (List.lt_irrefl _)

end BookingRetry.Text
