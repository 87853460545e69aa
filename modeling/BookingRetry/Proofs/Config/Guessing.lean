import BookingRetry.Config.Engine
import BookingRetry.Proofs.Text.Lowercase
import BookingRetry.Proofs.Text.Numeral

/-!
What a variable of the environment is taken for. A text that spells a truth value or a number is
taken for that, and comes back in the spelling that the program has for it.
-/
namespace BookingRetry.EngineConfig

open Config

/-! ### What a variable is taken for -/

def guess? (t : Text) : Option Setting :=
  if Text.lowered t = Setting.trueWord then some (.flag true)
  else if Text.lowered t = Setting.falseWord then some (.flag false)
  else match Numeral.readSigned? t with
    | some n => some (.whole n)
    | none => (Number.Extended.read? t).map .real

/-- The text that is left of a text which was taken for another value. -/
def guessedText (t : Text) : Text := ((guess? t).bind Setting.toText?).getD t

structure OnlyText (t : Text) : Prop where
  unflagged : Text.lowered t ≠ Setting.trueWord ∧ Text.lowered t ≠ Setting.falseWord
  unwhole : Numeral.readSigned? t = none
  unreal : Number.Extended.read? t = none

/-- Where the text spells a value of another kind, it does so as the program writes that value. -/
structure AsWritten (t : Text) : Prop where
  flag : ∀ word ∈ [Setting.trueWord, Setting.falseWord], Text.lowered t = word → t = word
  whole : ∀ n, Numeral.readSigned? t = some n → t = Numeral.writtenInt n
  real : Numeral.readSigned? t = none → ∀ x, Number.Extended.read? t = some x → t = x.written

structure OutsideLiterals (c : Char) : Prop where
  digit : Numeral.isDigit c = false
  mark : c ∉ lit "+-.eE"
  word : c.toLower ∉ Number.Extended.infinity ++ lit "infinity" ++ lit "nan"
  flag : c ∉ Setting.trueWord ++ Setting.falseWord
  lower : Text.lowered [c] = [c]
  sigma : c ≠ 'Σ'

theorem valueOf_eq (key t : Text) : valueOf key t = (guess? t).getD
    (if listKeys.contains key then .list ((Text.pieces ',' t).map .text) else .text t) := by
  unfold valueOf guess?
  simp only
  split
  · rfl
  · split
    · rfl
    · cases Numeral.readSigned? t with
      | some n => rfl
      | none => cases Number.Extended.read? t <;> rfl

theorem guess?_cases {t : Text} {s : Setting} (guessed : guess? t = some s) :
    (∃ b, s = .flag b) ∨ (∃ n, s = .whole n) ∨ ∃ x, s = .real x := by
  unfold guess? at guessed
  split at guessed
  · exact Or.inl ⟨true, (Option.some.inj guessed).symm⟩
  · split at guessed
    · exact Or.inl ⟨false, (Option.some.inj guessed).symm⟩
    · split at guessed
      · exact Or.inr (Or.inl ⟨_, (Option.some.inj guessed).symm⟩)
      · obtain ⟨x, _, rfl⟩ := Option.map_eq_some_iff.mp guessed
        exact Or.inr (Or.inr ⟨x, rfl⟩)

theorem guess?_eq_none_iff {t : Text} : guess? t = none ↔ OnlyText t := by
  unfold guess?
  constructor
  · intro none
    split at none
    · contradiction
    · split at none
      · contradiction
      · split at none
        · contradiction
        · rename_i first second _ unwhole
          exact ⟨⟨first, second⟩, unwhole, Option.map_eq_none_iff.mp none⟩
  · rintro ⟨⟨first, second⟩, unwhole, unreal⟩
    rw [if_neg first, if_neg second, unwhole, unreal]
    rfl

theorem guessedText_eq_iff {t : Text} : guessedText t = t ↔ AsWritten t := by
  unfold guessedText guess?
  constructor
  · intro same
    split at same
    · rename_i word
      have eq : t = Setting.trueWord := same.symm
      subst eq
      exact ⟨by decide +kernel, nofun, nofun⟩
    · split at same
      · have eq : t = Setting.falseWord := same.symm
        subst eq
        exact ⟨by decide +kernel, nofun, nofun⟩
      · rename_i first second
        refine ⟨?_, ?_, ?_⟩
        · intro word member lower
          rcases List.mem_cons.mp member with rfl | member
          · contradiction
          · rw [List.mem_singleton.mp member] at lower
            contradiction
        · intro n read
          rw [read] at same
          exact same.symm
        · intro unwhole x read
          rw [unwhole, read] at same
          exact same.symm
  · rintro ⟨flag, whole, real⟩
    split
    · rename_i word
      exact (flag _ (by simp) word).symm
    · split
      · rename_i word
        exact (flag _ (by simp) word).symm
      · split
        · rename_i n read
          exact (whole n read).symm
        · rename_i unwhole
          cases read : Number.Extended.read? t with
          | none => rfl
          | some x => exact (real unwhole x read).symm

/-! ### Texts that are only texts -/

theorem mem_dropWhile_digit {c : Char} (other : Numeral.isDigit c = false) {t : Text}
    (member : c ∈ t) : c ∈ t.dropWhile Numeral.isDigit := by
  rw [← List.takeWhile_append_dropWhile (p := Numeral.isDigit) (l := t)] at member
  rcases List.mem_append.mp member with digits | rest
  · have digit := List.all_eq_true.mp List.all_takeWhile c digits
    rw [other] at digit
    contradiction
  · exact rest

theorem readDigits?_other {c : Char} (other : Numeral.isDigit c = false) {t : Text}
    (member : c ∈ t) : Numeral.readDigits? t = none := by
  cases read : Numeral.readDigits? t with
  | none => rfl
  | some n =>
    have all := (Numeral.readDigits?_eq_some_iff.mp read).2.1
    exact absurd member (Text.not_mem_of_all all other)

section OutsideLiterals

variable {c : Char} (outside : OutsideLiterals c) {t : Text} (member : c ∈ t)

include outside member

theorem OutsideLiterals.behind_sign : c ∈ (Number.Extended.takeSign t).2 := by
  have plus : c ≠ '+' := fun same => outside.mark (same ▸ by decide)
  have minus : c ≠ '-' := fun same => outside.mark (same ▸ by decide)
  unfold Number.Extended.takeSign
  split
  · exact List.mem_of_ne_of_mem plus member
  · exact List.mem_of_ne_of_mem minus member
  · exact member

theorem OutsideLiterals.unwhole : Numeral.readSigned? t = none := by
  have behind := outside.behind_sign member
  have digits := readDigits?_other outside.digit behind
  unfold Number.Extended.takeSign at digits
  unfold Numeral.readSigned?
  split at digits <;> simp [digits]

theorem OutsideLiterals.unexponent : Number.Extended.readExponent? t = none := by
  have digits := readDigits?_other outside.digit (outside.behind_sign member)
  unfold Number.Extended.readExponent?
  simp only [digits]
  rfl

theorem OutsideLiterals.not_in_exponent : ∃ e rest, t = e :: rest ∧
    ((e = 'e' || e = 'E') = true → Number.Extended.readExponent? rest = none) := by
  cases t with
  | nil => contradiction
  | cons e rest =>
    refine ⟨e, rest, rfl, ?_⟩
    intro letter
    have other : c ≠ e := by
      rintro rfl
      apply outside.mark
      rcases Bool.or_eq_true _ _ ▸ letter with small | capital
      · rw [of_decide_eq_true small]
        decide
      · rw [of_decide_eq_true capital]
        decide
    exact outside.unexponent (List.mem_of_ne_of_mem other member)

theorem OutsideLiterals.unreal : Number.Extended.read? t = none := by
  have inside := outside.behind_sign member
  have point : c ≠ '.' := fun same => outside.mark (same ▸ by decide)
  have unword : ∀ word, word ∈ [Number.Extended.infinity, lit "infinity", lit "nan"] →
      (Number.Extended.takeSign t).2.map Char.toLower ≠ word := by
    intro word listed same
    apply outside.word
    have lower : c.toLower ∈ word := same ▸ List.mem_map_of_mem inside
    simp only [List.mem_cons, List.not_mem_nil, or_false] at listed
    rcases listed with rfl | rfl | rfl <;> simp [lower]
  have rest := mem_dropWhile_digit outside.digit inside
  unfold Number.Extended.read?
  generalize Number.Extended.takeSign t = signed at inside unword rest ⊢
  obtain ⟨negative, body⟩ := signed
  have first := unword _ (List.mem_cons_self)
  have second := unword (lit "infinity") (by simp)
  have third := unword (lit "nan") (by simp)
  simp only at first second third rest ⊢
  rw [if_neg (by simp [first, second]), if_neg third]
  split
  · rename_i more eq
    rw [eq] at rest
    have later := mem_dropWhile_digit outside.digit (List.mem_of_ne_of_mem point rest)
    obtain ⟨e, left, same, dead⟩ := outside.not_in_exponent later
    simp only [same]
    split
    · rfl
    · split
      · rename_i letter
        rw [dead letter]
        rfl
      · rfl
  · obtain ⟨e, left, same, dead⟩ := outside.not_in_exponent rest
    simp only [same]
    split
    · rfl
    · split
      · rename_i letter
        rw [dead letter]
        rfl
      · rfl

theorem OutsideLiterals.unflagged :
    Text.lowered t ≠ Setting.trueWord ∧ Text.lowered t ≠ Setting.falseWord := by
  obtain ⟨a, b, rfl⟩ := List.append_of_mem member
  have kept : Text.lowered [c] <:+: Text.lowered (a ++ [c] ++ b) :=
    Text.Casing.lowered_infix (Text.atSigmas_of_none (by simpa using outside.sigma.symm))
  rw [outside.lower] at kept
  have shape : a ++ c :: b = a ++ [c] ++ b := by simp
  have still : c ∈ Text.lowered (a ++ c :: b) := by
    rw [shape]
    exact kept.subset (List.mem_singleton_self c)
  constructor
  · intro same
    exact outside.flag (List.mem_append_left _ (same ▸ still))
  · intro same
    exact outside.flag (List.mem_append_right _ (same ▸ still))

theorem OutsideLiterals.onlyText : OnlyText t :=
  ⟨outside.unflagged member, outside.unwhole member, outside.unreal member⟩

end OutsideLiterals

theorem foreign_comma : OutsideLiterals ',' := by
  constructor <;> decide +kernel

/-! ### A text that is told again is not blank -/

theorem visible_of_mem {t : Text} {c : Char} (member : c ∈ t)
    (visible : Text.isBlankChar c = false) :
    Text.isBlank t = false := by
  rw [Text.isBlank, List.all_eq_false]
  exact ⟨c, member, by simp [visible]⟩

theorem written_visible (n : Nat) :
    ∃ c ∈ Numeral.written n, Text.isBlankChar c = false := by
  obtain ⟨some, all, _⟩ := Numeral.written_digits n
  obtain ⟨c, cs, eq, digit⟩ := Numeral.digits_start some all
  exact ⟨c, by simp [eq], Numeral.visible_of_digit digit⟩

theorem writtenInt_visible (n : Int) : Text.isBlank (Numeral.writtenInt n) = false := by
  obtain ⟨c, member, visible⟩ := written_visible n.natAbs
  unfold Numeral.writtenInt
  split
  · exact visible_of_mem (List.mem_cons_of_mem _ member) visible
  · exact visible_of_mem member visible

theorem plain_visible (d : Number.Decimal) :
    ∃ c, (c ∈ d.plain.1 ∨ c ∈ d.plain.2) ∧ Text.isBlankChar c = false := by
  obtain ⟨c, member, visible⟩ := written_visible d.digits
  refine ⟨c, ?_, visible⟩
  unfold Number.Decimal.plain
  split
  · exact Or.inl (List.mem_append_left _ member)
  · simp only
    rw [← List.mem_append, List.take_append_drop]
    exact List.mem_append_right _ member

theorem real_visible (x : Number.Extended) : Text.isBlank x.written = false := by
  have signed : ∀ (negative : Bool) {t : Text} {c : Char}, c ∈ t → Text.isBlankChar c = false →
      Text.isBlank (Number.Extended.signed negative t) = false := by
    intro negative t c member visible
    cases negative with
    | true => exact visible_of_mem (List.mem_cons_of_mem _ member) visible
    | false => exact visible_of_mem member visible
  cases x with
  | finite negative x =>
    obtain ⟨c, member, visible⟩ := plain_visible (Number.shortest .up x)
    apply signed negative _ visible
    rcases member with whole | fraction
    · exact List.mem_append_left _ whole
    · rw [if_neg (by simpa using List.ne_nil_of_mem fraction)]
      exact List.mem_append_right _ (List.mem_cons_of_mem _ fraction)
  | infinite negative => exact signed negative (c := 'i') (by decide) (by decide)
  | notANumber => decide

theorem guessedText_visible {t : Text} (visible : Text.isBlank t = false) :
    Text.isBlank (guessedText t) = false := by
  unfold guessedText
  cases guessed : guess? t with
  | none => exact visible
  | some s =>
    rcases guess?_cases guessed with ⟨b, rfl⟩ | ⟨n, rfl⟩ | ⟨x, rfl⟩
    · cases b with
      | true => exact (by decide : Text.isBlank Setting.trueWord = false)
      | false => exact (by decide : Text.isBlank Setting.falseWord = false)
    · exact writtenInt_visible n
    · exact real_visible x

end BookingRetry.EngineConfig
