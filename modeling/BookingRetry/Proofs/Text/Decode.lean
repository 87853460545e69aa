import BookingRetry.Text.Utf8

/-!
Line feeds in bytes that are read lossily. The byte of a line feed ends whatever character was open
before it, and no other bytes are read as a line feed; so bytes can be cut at their line feeds
before they are read as well as after.
-/
namespace BookingRetry.Utf8

/-- What is open can only become a character of more than one byte. -/
def Partial.Wide (p : Partial) : Prop :=
  0x80 ≤ p.low.toNat ∧
    (p.owed = 1 ∧ 2 ≤ p.bits ∨ p.owed = 2 ∧ (1 ≤ p.bits ∨ 0xA0 ≤ p.low.toNat) ∨
      p.owed = 3 ∧ (1 ≤ p.bits ∨ 0x90 ≤ p.low.toNat))

theorem start?_wide {b : UInt8} {p : Partial} (starts : start? b = some p) : p.Wide := by
  unfold start? at starts
  dsimp only at starts
  repeat' split at starts
  all_goals first | contradiction | (have eq := Option.some.inj starts; subst eq)
  · exact ⟨Nat.le_refl _, Or.inl ⟨rfl, by dsimp only; omega⟩⟩
  · exact ⟨by decide, Or.inr (Or.inl ⟨rfl, Or.inr (Nat.le_refl _)⟩)⟩
  · exact ⟨Nat.le_refl _, Or.inr (Or.inl ⟨rfl, Or.inl (by dsimp only; omega)⟩)⟩
  · exact ⟨Nat.le_refl _, Or.inr (Or.inl ⟨rfl, Or.inl (by dsimp only; omega)⟩)⟩
  · exact ⟨by decide, Or.inr (Or.inr ⟨rfl, Or.inr (Nat.le_refl _)⟩)⟩
  · exact ⟨Nat.le_refl _, Or.inr (Or.inr ⟨rfl, Or.inl (by dsimp only; omega)⟩)⟩
  · exact ⟨Nat.le_refl _, Or.inr (Or.inr ⟨rfl, Or.inl (by decide)⟩)⟩

theorem ofNat_lineFeed {n : Nat} (h : Char.ofNat n = '\n') : n = 0x0A := by
  by_cases valid : n.isValidChar
  · have same : Char.ofNat n = Char.ofNatAux n valid := dif_pos valid
    rw [same] at h
    exact congrArg Char.toNat h
  · have same : Char.ofNat n = Char.ofNat 0 := dif_neg valid
    rw [same] at h
    contradiction

theorem fresh_wide (b : UInt8) :
    (∀ p ∈ (fresh b).2, p.Wide) ∧ (some '\n' ∈ (fresh b).1 → b = 0x0A) := by
  unfold fresh
  split
  · refine ⟨nofun, ?_⟩
    intro member
    have same := ofNat_lineFeed (Option.some.inj (List.mem_singleton.mp member)).symm
    exact UInt8.toNat_inj.mp same
  · cases starts : start? b with
    | none => exact ⟨nofun, by simp⟩
    | some p =>
      refine ⟨?_, by simp⟩
      rintro q ⟨⟩
      exact start?_wide starts

theorem feed_wide {part : Option Partial} (wide : ∀ p ∈ part, p.Wide) (b : UInt8) :
    (∀ p ∈ (feed part b).2, p.Wide) ∧ (some '\n' ∈ (feed part b).1 → b = 0x0A) := by
  cases part with
  | none => exact fresh_wide b
  | some p =>
    obtain ⟨low, room⟩ := wide p rfl
    unfold feed
    dsimp only
    split
    · rename_i inside
      have above : p.low.toNat ≤ b.toNat := inside.1
      split
      · rename_i last
        refine ⟨nofun, ?_⟩
        intro member
        have same := ofNat_lineFeed (Option.some.inj (List.mem_singleton.mp member)).symm
        omega
      · rename_i more
        refine ⟨?_, by simp⟩
        intro q same
        rw [Option.mem_some] at same
        subst same
        refine ⟨Nat.le_refl _, ?_⟩
        dsimp only
        omega
    · have again := fresh_wide b
      refine ⟨again.1, ?_⟩
      intro member
      exact again.2 (by simpa using member)

theorem charsFrom_small {part : Option Partial} (wide : ∀ p ∈ part, p.Wide) (bs : Bytes)
    {b : UInt8} (small : b.toNat < 0x80) (rest : Bytes) :
    charsFrom part (bs ++ b :: rest) =
      charsFrom part bs ++ some (Char.ofNat b.toNat) :: charsFrom none rest := by
  have alone : fresh b = ([some (Char.ofNat b.toNat)], none) := if_pos small
  induction bs generalizing part with
  | nil =>
    cases part with
    | none => simp [charsFrom, feed, alone]
    | some p =>
      have low := (wide p rfl).1
      have outside : ¬ (p.low ≤ b ∧ b ≤ p.high) := by
        rintro ⟨below, _⟩
        have below : p.low.toNat ≤ b.toNat := below
        omega
      simp only [List.nil_append, charsFrom, feed, if_neg outside, alone]
      rfl
  | cons c bs ih =>
    simp only [List.cons_append, charsFrom, List.append_assoc]
    rw [ih (feed_wide wide c).1]

theorem mem_charsFrom {part : Option Partial} (wide : ∀ p ∈ part, p.Wide) {bs : Bytes}
    (member : some '\n' ∈ charsFrom part bs) : 0x0A ∈ bs := by
  induction bs generalizing part with
  | nil =>
    unfold charsFrom at member
    split at member <;> simp at member
  | cons b bs ih =>
    rcases List.mem_append.mp member with now | later
    · rw [(feed_wide wide b).2 now]
      exact List.mem_cons_self
    · exact List.mem_cons_of_mem _ (ih (feed_wide wide b).1 later)

theorem decodeLossy_small (bs : Bytes) {b : UInt8} (small : b.toNat < 0x80) (rest : Bytes) :
    decodeLossy (bs ++ b :: rest) =
      decodeLossy bs ++ Char.ofNat b.toNat :: decodeLossy rest := by
  unfold decodeLossy chars
  rw [charsFrom_small (by simp) bs small]
  simp

theorem decodeLossy_lineFeed (bs rest : Bytes) :
    decodeLossy (bs ++ 0x0A :: rest) = decodeLossy bs ++ '\n' :: decodeLossy rest :=
  decodeLossy_small bs (by decide) rest

theorem lineFeed_mem_decodeLossy {bs : Bytes} (member : '\n' ∈ decodeLossy bs) : 0x0A ∈ bs := by
  obtain ⟨c, inside, same⟩ := List.mem_map.mp member
  cases c with
  | none => simp [replacement] at same
  | some c =>
    have feed : c = '\n' := same
    rw [feed] at inside
    exact mem_charsFrom (by simp) inside

end BookingRetry.Utf8
