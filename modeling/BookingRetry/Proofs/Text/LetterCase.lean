import BookingRetry.Proofs.Text.Lowercase

/-!
The case of the letters A to Z. It makes no difference to anything that is asked of a text in which
case does not count: which characters are blank, where a word ends, and what the text becomes in
lower case.
-/
namespace BookingRetry.Text

def SameLetters (t u : Text) : Prop := t.map Char.toLower = u.map Char.toLower

instance (t u : Text) : Decidable (SameLetters t u) := inferInstanceAs (Decidable (_ = _))

theorem toLower_alike (c : Char) :
    isBlankChar c.toLower = isBlankChar c ∧ (c.toLower = 'Σ' ↔ c = 'Σ') := by
  by_cases capital : c.toNat ∈ List.range' 65 26
  · have each : ∀ n ∈ List.range' 65 26,
        isBlankChar (Char.ofNat n).toLower = isBlankChar (Char.ofNat n) ∧
        ((Char.ofNat n).toLower = 'Σ' ↔ Char.ofNat n = 'Σ') := by
      decide +kernel
    have here := each c.toNat capital
    rwa [Char.ofNat_toNat] at here
  · rw [toLower_of_not_capital capital]
    exact ⟨rfl, Iff.rfl⟩

/-! ### Trimming -/

theorem isBlankChar_toLower : isBlankChar ∘ Char.toLower = isBlankChar := by
  funext c
  exact (toLower_alike c).1

theorem isBlank_toLower (t : Text) : isBlank (t.map Char.toLower) = isBlank t := by
  rw [isBlank, List.all_map, isBlankChar_toLower, isBlank]

theorem trim_toLower (t : Text) : trim (t.map Char.toLower) = (trim t).map Char.toLower := by
  simp only [trim, trimEnd, trimStart, List.dropWhile_map, ← List.map_reverse, isBlankChar_toLower]

/-! ### Lower-casing -/

variable {t u : Text}

namespace Casing

variable (d : Casing)

theorem leads?_toLower (t : Text) : d.leads? (t.map Char.toLower) = d.leads? t := by
  have skipped : (fun c => !d.isIgnorable c) ∘ Char.toLower = fun c => !d.isIgnorable c := by
    funext c
    simp only [Function.comp, (d.of_ascii c).2.1]
  have cased : d.isCased ∘ Char.toLower = d.isCased := by
    funext c
    exact (d.of_ascii c).1
  rw [leads?, List.find?_map, skipped, Option.map_map, cased, leads?]

theorem startsCased_toLower (t : Text) : d.startsCased (t.map Char.toLower) = d.startsCased t := by
  rw [startsCased_eq, startsCased_eq, leads?_toLower]

theorem lowerAfter_toLower (before t : Text) :
    d.lowerAfter (before.map Char.toLower) (t.map Char.toLower) = d.lowerAfter before t := by
  induction t generalizing before with
  | nil => rfl
  | cons c cs ih =>
    have rest := ih (c :: before)
    rw [List.map_cons] at rest
    simp only [List.map_cons, lowerAfter, rest, (toLower_alike c).2, (d.of_ascii c).2.2,
      startsCased_toLower]

theorem lowered_toLower (t : Text) : d.lowered (t.map Char.toLower) = d.lowered t :=
  d.lowerAfter_toLower [] t

theorem lowered_congr (same : SameLetters t u) : d.lowered t = d.lowered u := by
  rw [← d.lowered_toLower t, ← d.lowered_toLower u, same]

end Casing

theorem SameLetters.isBlank_eq (same : SameLetters t u) : isBlank t = isBlank u := by
  rw [← isBlank_toLower t, ← isBlank_toLower u, same]

theorem SameLetters.trim (same : SameLetters t u) : SameLetters (trim t) (trim u) := by
  unfold SameLetters
  rw [← trim_toLower, ← trim_toLower, same]

end BookingRetry.Text
