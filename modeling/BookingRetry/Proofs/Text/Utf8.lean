import BookingRetry.Text.Utf8

/-!
What is written in UTF-8 is read back, character by character, whatever follows; and a line feed is
the only character whose bytes have the byte of a line feed.
-/
namespace BookingRetry.Utf8

theorem byte_toNat {n : Nat} (small : n < 256) : n.toUInt8.toNat = n := by
  simp [Nat.toUInt8, Nat.mod_eq_of_lt small]

theorem charsFrom_ascii {n : Nat} (small : n < 0x80) (rest : Bytes) :
    charsFrom none (n.toUInt8 :: rest) = some (Char.ofNat n) :: charsFrom none rest := by
  have byte : n.toUInt8.toNat = n := byte_toNat (by omega)
  simp [charsFrom, feed, fresh, byte, small]

theorem charsFrom_start {n : Nat} {p : Partial} (large : 0x80 ≤ n) (small : n < 256)
    (starts : start? n.toUInt8 = some p) (rest : Bytes) :
    charsFrom none (n.toUInt8 :: rest) = charsFrom (some p) rest := by
  have byte := byte_toNat small
  have high : ¬ n < 0x80 := by omega
  simp [charsFrom, feed, fresh, byte, high, starts]

section Continuation

variable {bits d : Nat} {low high b : UInt8}

theorem charsFrom_last (byte : b.toNat = 0x80 + d) (above : low.toNat ≤ 0x80 + d)
    (below : 0x80 + d ≤ high.toNat) (rest : Bytes) :
    charsFrom (some ⟨bits, 1, low, high⟩) (b :: rest) =
      some (Char.ofNat (bits * 0x40 + d)) :: charsFrom none rest := by
  have inside : low ≤ b ∧ b ≤ high := by
    rw [UInt8.le_iff_toNat_le, UInt8.le_iff_toNat_le, byte]
    exact ⟨above, below⟩
  simp only [charsFrom, feed]
  rw [if_pos inside, byte, Nat.add_sub_cancel_left]
  rfl

theorem charsFrom_next {owed : Nat} (byte : b.toNat = 0x80 + d) (above : low.toNat ≤ 0x80 + d)
    (below : 0x80 + d ≤ high.toNat) (rest : Bytes) :
    charsFrom (some ⟨bits, owed + 2, low, high⟩) (b :: rest) =
      charsFrom (some ⟨bits * 0x40 + d, owed + 1, 0x80, 0xBF⟩) rest := by
  have inside : low ≤ b ∧ b ≤ high := by
    rw [UInt8.le_iff_toNat_le, UInt8.le_iff_toNat_le, byte]
    exact ⟨above, below⟩
  have more : ¬ (owed + 2 = 1) := by omega
  simp only [charsFrom, feed]
  rw [if_pos inside, byte, Nat.add_sub_cancel_left, if_neg more]
  rfl

end Continuation

/-! ### First bytes -/

theorem start?_two {n : Nat} (above : 0xC2 ≤ n) (below : n ≤ 0xDF) :
    start? n.toUInt8 = some ⟨n - 0xC0, 1, 0x80, 0xBF⟩ := by
  have byte : n.toUInt8.toNat = n := byte_toNat (by omega)
  simp [start?, byte, above, below]

theorem start?_three {d : Nat} (below : d < 0x10) :
    start? (0xE0 + d).toUInt8 =
      some ⟨d, 2, if d = 0 then 0xA0 else 0x80, if d = 0xD then 0x9F else 0xBF⟩ := by
  have byte : (0xE0 + d).toUInt8.toNat = 0xE0 + d := byte_toNat (by omega)
  by_cases zero : d = 0
  · subst zero
    rfl
  · have few : ¬ (0xC2 ≤ 0xE0 + d ∧ 0xE0 + d ≤ 0xDF) := by omega
    have more : ¬ (0xE0 + d = 0xE0) := by omega
    have inside : 0xE1 ≤ 0xE0 + d ∧ 0xE0 + d ≤ 0xEF := by omega
    have last : (0xE0 + d = 0xED) = (d = 0xD) := propext (by omega)
    simp only [start?, byte, few, more, inside, last, zero, if_false, and_self, if_true]
    simp

theorem start?_four {d : Nat} (below : d ≤ 4) :
    start? (0xF0 + d).toUInt8 =
      some ⟨d, 3, if d = 0 then 0x90 else 0x80, if d = 4 then 0x8F else 0xBF⟩ := by
  have cases : d = 0 ∨ d = 1 ∨ d = 2 ∨ d = 3 ∨ d = 4 := by omega
  rcases cases with rfl | rfl | rfl | rfl | rfl <;> rfl

/-! ### Characters -/

theorem char_range (c : Char) :
    c.toNat < 0xD800 ∨ 0xDFFF < c.toNat ∧ c.toNat < 0x110000 := by
  have valid := c.valid
  simpa [UInt32.isValidChar, Nat.isValidChar] using valid

section Lengths

variable {n : Nat} (rest : Bytes)

theorem charsFrom_two (large : 0x80 ≤ n) (small : n < 0x800) :
    charsFrom none ((0xC0 + n / 0x40).toUInt8 :: (0x80 + n % 0x40).toUInt8 :: rest) =
      some (Char.ofNat n) :: charsFrom none rest := by
  have first := @start?_two (0xC0 + n / 0x40) (by omega) (by omega)
  have last : (0x80 + n % 0x40).toUInt8.toNat = 0x80 + n % 0x40 := byte_toNat (by omega)
  have bits : (0xC0 + n / 0x40 - 0xC0) * 0x40 + n % 0x40 = n := by omega
  rw [charsFrom_start (by omega) (by omega) first]
  rw [charsFrom_last last (by simp) (by simp; omega), bits]

theorem charsFrom_three (large : 0x800 ≤ n) (small : n < 0x10000)
    (range : n < 0xD800 ∨ 0xDFFF < n) :
    charsFrom none ((0xE0 + n / 0x1000).toUInt8 :: (0x80 + n / 0x40 % 0x40).toUInt8 ::
      (0x80 + n % 0x40).toUInt8 :: rest) = some (Char.ofNat n) :: charsFrom none rest := by
  have first := @start?_three (n / 0x1000) (by omega)
  have next : (0x80 + n / 0x40 % 0x40).toUInt8.toNat = 0x80 + n / 0x40 % 0x40 :=
    byte_toNat (by omega)
  have last : (0x80 + n % 0x40).toUInt8.toNat = 0x80 + n % 0x40 := byte_toNat (by omega)
  have bits : (n / 0x1000 * 0x40 + n / 0x40 % 0x40) * 0x40 + n % 0x40 = n := by omega
  have above : (if n / 0x1000 = 0 then (0xA0 : UInt8) else 0x80).toNat ≤
      0x80 + n / 0x40 % 0x40 := by
    split
    · show 0xA0 ≤ _
      omega
    · exact Nat.le_add_right _ _
  have below : 0x80 + n / 0x40 % 0x40 ≤
      (if n / 0x1000 = 0xD then (0x9F : UInt8) else 0xBF).toNat := by
    split
    · show _ ≤ 0x9F
      omega
    · show _ ≤ 0xBF
      omega
  rw [charsFrom_start (by omega) (by omega) first]
  rw [charsFrom_next next above below, charsFrom_last last (by simp) (by simp; omega), bits]

theorem charsFrom_four (large : 0x10000 ≤ n) (small : n < 0x110000) :
    charsFrom none ((0xF0 + n / 0x40000).toUInt8 :: (0x80 + n / 0x1000 % 0x40).toUInt8 ::
      (0x80 + n / 0x40 % 0x40).toUInt8 :: (0x80 + n % 0x40).toUInt8 :: rest) =
      some (Char.ofNat n) :: charsFrom none rest := by
  have first := @start?_four (n / 0x40000) (by omega)
  have second : (0x80 + n / 0x1000 % 0x40).toUInt8.toNat = 0x80 + n / 0x1000 % 0x40 :=
    byte_toNat (by omega)
  have next : (0x80 + n / 0x40 % 0x40).toUInt8.toNat = 0x80 + n / 0x40 % 0x40 :=
    byte_toNat (by omega)
  have last : (0x80 + n % 0x40).toUInt8.toNat = 0x80 + n % 0x40 := byte_toNat (by omega)
  have bits : ((n / 0x40000 * 0x40 + n / 0x1000 % 0x40) * 0x40 + n / 0x40 % 0x40) * 0x40 +
      n % 0x40 = n := by omega
  have above : (if n / 0x40000 = 0 then (0x90 : UInt8) else 0x80).toNat ≤
      0x80 + n / 0x1000 % 0x40 := by
    split
    · show 0x90 ≤ _
      omega
    · exact Nat.le_add_right _ _
  have below : 0x80 + n / 0x1000 % 0x40 ≤
      (if n / 0x40000 = 4 then (0x8F : UInt8) else 0xBF).toNat := by
    split
    · show _ ≤ 0x8F
      omega
    · show _ ≤ 0xBF
      omega
  rw [charsFrom_start (by omega) (by omega) first]
  rw [charsFrom_next second above below, charsFrom_next next (by simp) (by simp; omega),
    charsFrom_last last (by simp) (by simp; omega), bits]

end Lengths

theorem charsFrom_encodeChar (c : Char) (rest : Bytes) :
    charsFrom none (encodeChar c ++ rest) = some c :: charsFrom none rest := by
  have range := char_range c
  have same : Char.ofNat c.toNat = c := Char.ofNat_toNat c
  unfold encodeChar
  generalize c.toNat = n at range same
  subst same
  dsimp only
  split
  · rename_i small
    exact charsFrom_ascii small rest
  · split
    · exact charsFrom_two rest (by omega) (by omega)
    · split
      · exact charsFrom_three rest (by omega) (by omega) (by omega)
      · exact charsFrom_four rest (by omega) (by omega)

theorem chars_encode (t : Text) (rest : Bytes) :
    charsFrom none (encode t ++ rest) = t.map some ++ charsFrom none rest := by
  induction t with
  | nil => rfl
  | cons c cs ih =>
    simp only [encode, List.flatMap_cons, List.append_assoc] at ih ⊢
    rw [charsFrom_encodeChar, ih]
    rfl

theorem chars_encoded (t : Text) : chars (encode t) = t.map some := by
  have whole := chars_encode t []
  have nothing : charsFrom none [] = [] := rfl
  rwa [List.append_nil, nothing, List.append_nil] at whole

theorem decodeLossy_encode (t : Text) : decodeLossy (encode t) = t := by
  rw [decodeLossy, chars_encoded, List.map_map]
  exact List.map_id t

theorem decode?_encode (t : Text) : decode? (encode t) = some t := by
  have whole : (t.map some).all Option.isSome = true := by simp
  unfold decode?
  rw [chars_encoded]
  simp only [whole, if_true, List.map_map]
  exact congrArg some (List.map_id t)

theorem encode_append (t u : Text) : encode (t ++ u) = encode t ++ encode u :=
  List.flatMap_append

theorem encode_length_of_ascii {t : Text} (ascii : ∀ c ∈ t, c.toNat < 0x80) :
    (encode t).length = t.length := by
  induction t with
  | nil => rfl
  | cons c cs ih =>
    rw [List.forall_mem_cons] at ascii
    have one : encodeChar c = [c.toNat.toUInt8] := by
      unfold encodeChar
      simp only [ascii.1, if_true]
    have rest := ih ascii.2
    unfold encode at rest ⊢
    rw [List.flatMap_cons, one, List.length_append, rest, List.length_cons]
    exact Nat.add_comm _ _

theorem byte_ne_lineFeed {n : Nat} (large : 0x80 ≤ n) (small : n < 256) :
    (0x0A : UInt8) ≠ n.toUInt8 := by
  intro same
  have numbers := congrArg UInt8.toNat same
  rw [byte_toNat small] at numbers
  have ten : (0x0A : UInt8).toNat = 10 := rfl
  omega

theorem lineFeed_mem_encodeChar {c : Char} (member : (0x0A : UInt8) ∈ encodeChar c) :
    c = '\n' := by
  have range := char_range c
  have same : Char.ofNat c.toNat = c := Char.ofNat_toNat c
  unfold encodeChar at member
  generalize c.toNat = n at range same member
  subst same
  dsimp only at member
  split at member
  · have numbers := congrArg UInt8.toNat (List.mem_singleton.mp member)
    rw [byte_toNat (by omega)] at numbers
    rw [← numbers]
    rfl
  · exfalso
    split at member
    · simp only [List.mem_cons, List.not_mem_nil, or_false] at member
      rcases member with b | b <;> exact byte_ne_lineFeed (by omega) (by omega) b
    · split at member <;> simp only [List.mem_cons, List.not_mem_nil, or_false] at member
      · rcases member with b | b | b <;> exact byte_ne_lineFeed (by omega) (by omega) b
      · rcases member with b | b | b | b <;> exact byte_ne_lineFeed (by omega) (by omega) b

theorem lineFeed_mem_encode {t : Text} (member : (0x0A : UInt8) ∈ encode t) : '\n' ∈ t := by
  obtain ⟨c, inside, byte⟩ := List.mem_flatMap.mp member
  rwa [lineFeed_mem_encodeChar byte] at inside

end BookingRetry.Utf8
