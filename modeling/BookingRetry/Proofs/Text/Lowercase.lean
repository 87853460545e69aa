import BookingRetry.Proofs.Text.Lines
import BookingRetry.Text.Basic
import BookingRetry.Text.Lowercase
import Mathlib.Data.List.TakeWhile

/-!
Lower-casing a part of a text, and lower-casing the whole. The two differ at sigmas only: a
capital sigma takes its form from the nearest characters on both sides that are not skipped, and
these may stand outside the part. This holds in every version of Unicode, so the data are a
parameter.
-/
namespace BookingRetry.Text

theorem trim_eq_nil_iff {m : Text} : trim m = [] ↔ isBlank m = true := by
  constructor
  · intro nothing
    obtain ⟨front, back, left, right, parts⟩ := trim_parts m
    rw [nothing, List.append_nil] at parts
    rw [parts, isBlank, List.all_append, Bool.and_eq_true]
    exact ⟨left, right⟩
  · intro blank
    have start : trimStart m = [] := List.dropWhile_eq_nil_iff.mpr (List.all_eq_true.mp blank)
    rw [trim, start]
    rfl

/-! ### The sigmas of a text -/

def AtSigmas (P : Text → Text → Prop) (before : Text) : Text → Prop
  | [] => True
  | c :: cs => (c = 'Σ' → P before cs) ∧ AtSigmas P (c :: before) cs

instance decidableAtSigmas (P : Text → Text → Prop) [∀ b a, Decidable (P b a)] :
    ∀ before t, Decidable (AtSigmas P before t)
  | _, [] => isTrue trivial
  | before, c :: cs =>
    have := decidableAtSigmas P (c :: before) cs
    inferInstanceAs (Decidable (_ ∧ _))

section

variable {P Q : Text → Text → Prop} {before t : Text}

theorem atSigmas_iff :
    AtSigmas P before t ↔ ∀ u v, t = u ++ 'Σ' :: v → P (u.reverse ++ before) v := by
  induction t generalizing before with
  | nil => simp [AtSigmas]
  | cons c cs ih =>
    rw [AtSigmas, ih]
    constructor
    · rintro ⟨here, later⟩ u v split
      cases u with
      | nil =>
        cases split
        exact here rfl
      | cons d u =>
        cases split
        simpa using later u v rfl
    · intro each
      refine ⟨fun sigma => each [] cs (by rw [sigma]; rfl), fun u v split => ?_⟩
      simpa using each (c :: u) v (by rw [split]; rfl)

theorem AtSigmas.imp (implies : ∀ b a, P b a → Q b a) (each : AtSigmas P before t) :
    AtSigmas Q before t :=
  atSigmas_iff.mpr fun u v split => implies _ _ (atSigmas_iff.mp each u v split)

theorem atSigmas_of_none (none : 'Σ' ∉ t) : AtSigmas P before t :=
  atSigmas_iff.mpr fun u v split => absurd (by simp [split]) none

end

namespace Casing

variable {d : Casing} {before t : Text} {ends ends' : Text → Text → Bool}

/-! ### The neighbours of a sigma -/

def leads? (d : Casing) (t : Text) : Option Bool :=
  (t.find? fun c => !d.isIgnorable c).map d.isCased

theorem startsCased_eq (t : Text) : d.startsCased t = (d.leads? t).getD false := by
  induction t with
  | nil => rfl
  | cons c cs ih =>
    cases skipped : d.isIgnorable c <;> simp_all [startsCased, leads?]

theorem leads?_append (t u : Text) : d.leads? (t ++ u) = (d.leads? t).or (d.leads? u) := by
  simp [leads?, List.find?_append, Option.map_or]

def endsWord (d : Casing) (before after : Text) : Bool :=
  d.startsCased before && !d.startsCased after

/-- No text put around these two can change whether a word ends between them. -/
def Settled (d : Casing) (before after : Text) : Prop :=
  d.leads? before = some false ∨ d.leads? after = some true ∨
    ((d.leads? before).isSome ∧ (d.leads? after).isSome)

instance (before after : Text) : Decidable (d.Settled before after) :=
  inferInstanceAs (Decidable (_ ∨ _ ∨ _))

theorem endsWord_around {before after : Text} (settled : d.Settled before after)
    (front back : Text) :
    d.endsWord (before ++ front) (after ++ back) = d.endsWord before after := by
  simp only [endsWord, startsCased_eq, leads?_append]
  rcases settled with uncased | cased | ⟨left, right⟩
  · simp [uncased]
  · simp [cased]
  · obtain ⟨l, left⟩ := Option.isSome_iff_exists.mp left
    obtain ⟨r, right⟩ := Option.isSome_iff_exists.mp right
    simp [left, right]

/-- The sigmas of a text are the same in every surrounding. -/
def Steady (d : Casing) (m : Text) : Prop := AtSigmas d.Settled [] m

instance (m : Text) : Decidable (d.Steady m) := inferInstanceAs (Decidable (AtSigmas _ _ _))

/-- The sigmas of a text are the same between `a` and `b` as they are alone. -/
def Undisturbed (d : Casing) (a m b : Text) : Prop :=
  AtSigmas (fun before after =>
    d.endsWord (before ++ a.reverse) (after ++ b) = d.endsWord before after) [] m

instance (a m b : Text) : Decidable (d.Undisturbed a m b) :=
  inferInstanceAs (Decidable (AtSigmas _ _ _))

theorem Steady.undisturbed {m : Text} (steady : d.Steady m) (a b : Text) :
    d.Undisturbed a m b :=
  AtSigmas.imp (fun _ _ settled => endsWord_around settled a.reverse b) steady

/-! ### Lower-casing with a given rule for the sigmas -/

def image (d : Casing) (ends : Text → Text → Bool) (before : Text) (c : Char) (after : Text) :
    Text :=
  if c = 'Σ' then (if ends before after then ['ς'] else ['σ']) else d.lower c

def loweredBy (d : Casing) (ends : Text → Text → Bool) (before : Text) : Text → Text
  | [] => []
  | c :: cs => d.image ends before c cs ++ d.loweredBy ends (c :: before) cs

theorem lowerAfter_eq (before t : Text) :
    d.lowerAfter before t = d.loweredBy d.endsWord before t := by
  induction t generalizing before with
  | nil => rfl
  | cons c cs ih =>
    rw [lowerAfter, loweredBy, ih]
    rfl

theorem loweredBy_append (before t u : Text) :
    d.loweredBy ends before (t ++ u) =
      d.loweredBy (fun b a => ends b (a ++ u)) before t ++
        d.loweredBy ends (t.reverse ++ before) u := by
  induction t generalizing before with
  | nil => rfl
  | cons c cs ih => simp [loweredBy, image, ih]

theorem loweredBy_after (before front t : Text) :
    d.loweredBy ends (before ++ front) t =
      d.loweredBy (fun b a => ends (b ++ front) a) before t := by
  induction t generalizing before with
  | nil => rfl
  | cons c cs ih =>
    have later := ih (c :: before)
    rw [List.cons_append] at later
    rw [loweredBy, loweredBy, later]
    rfl

theorem loweredBy_congr (same : AtSigmas (fun b a => ends b a = ends' b a) before t) :
    d.loweredBy ends before t = d.loweredBy ends' before t := by
  induction t generalizing before with
  | nil => rfl
  | cons c cs ih =>
    obtain ⟨here, later⟩ := same
    have first : d.image ends before c cs = d.image ends' before c cs := by
      by_cases sigma : c = 'Σ'
      · simp only [image, here sigma]
      · simp only [image, sigma, if_false]
    rw [loweredBy, loweredBy, first, ih later]

theorem lowered_parts (a m b : Text) :
    d.lowered (a ++ m ++ b) =
      d.loweredBy (fun before after => d.endsWord before (after ++ (m ++ b))) [] a ++
        d.loweredBy (fun before after => d.endsWord (before ++ a.reverse) (after ++ b)) [] m ++
        d.loweredBy d.endsWord (m.reverse ++ a.reverse) b := by
  have inner : d.loweredBy (fun before after => d.endsWord before (after ++ b)) a.reverse m =
      d.loweredBy (fun before after => d.endsWord (before ++ a.reverse) (after ++ b)) [] m :=
    loweredBy_after [] a.reverse m
  rw [lowered, lowerAfter_eq, List.append_assoc, loweredBy_append, loweredBy_append,
    List.append_nil, inner, List.append_assoc]

theorem lowered_of_undisturbed {a m b : Text} (kept : d.Undisturbed a m b) :
    d.lowered (a ++ m ++ b) =
      d.loweredBy (fun before after => d.endsWord before (after ++ (m ++ b))) [] a ++ d.lowered m ++
        d.loweredBy d.endsWord (m.reverse ++ a.reverse) b := by
  rw [lowered_parts, loweredBy_congr kept, ← lowerAfter_eq, ← lowered]

/-- A part in which no sigma changes is lower-cased the same alone and in the whole. -/
theorem lowered_infix {a m b : Text} (kept : d.Undisturbed a m b) :
    d.lowered m <:+: d.lowered (a ++ m ++ b) := by
  rw [lowered_of_undisturbed kept]
  exact List.infix_append _ _ _

theorem image_ne_nil (ends : Text → Text → Bool) (before : Text) (c : Char) (after : Text) :
    d.image ends before c after ≠ [] := by
  unfold image
  split
  · split <;> simp
  · exact d.lower_ne_nil c

theorem lowered_eq_nil {t : Text} : d.lowered t = [] ↔ t = [] := by
  rw [lowered, lowerAfter_eq]
  cases t <;> simp [loweredBy, image_ne_nil]

/-! ### Counting sigmas -/

theorem image_sigmas_le {c : Char} {after : Text}
    (fewer : c = 'Σ' → ends' before after → ends before after) :
    (d.image ends' before c after).count 'ς' ≤ (d.image ends before c after).count 'ς' ∧
      (d.image ends before c after).count 'σ' ≤ (d.image ends' before c after).count 'σ' := by
  unfold image
  split
  · rename_i sigma
    cases old : ends before after <;> cases new : ends' before after <;> simp_all
  · exact ⟨Nat.le_refl _, Nat.le_refl _⟩

theorem sigmas_le (fewer : AtSigmas (fun b a => ends' b a → ends b a) before t) :
    (d.loweredBy ends' before t).count 'ς' ≤ (d.loweredBy ends before t).count 'ς' ∧
      (d.loweredBy ends before t).count 'σ' ≤ (d.loweredBy ends' before t).count 'σ' := by
  induction t generalizing before with
  | nil => exact ⟨Nat.le_refl _, Nat.le_refl _⟩
  | cons c cs ih =>
    have first := image_sigmas_le (d := d) fewer.1
    have rest := ih fewer.2
    simp only [loweredBy, List.count_append]
    omega

theorem sigmas_lt {u v : Text}
    (fewer : AtSigmas (fun b a => ends' b a → ends b a) before (u ++ 'Σ' :: v))
    (end_lost : ends (u.reverse ++ before) v = true ∧ ends' (u.reverse ++ before) v = false) :
    (d.loweredBy ends' before (u ++ 'Σ' :: v)).count 'ς' <
        (d.loweredBy ends before (u ++ 'Σ' :: v)).count 'ς' ∧
      (d.loweredBy ends before (u ++ 'Σ' :: v)).count 'σ' <
        (d.loweredBy ends' before (u ++ 'Σ' :: v)).count 'σ' := by
  induction u generalizing before with
  | nil =>
    simp only [List.reverse_nil, List.nil_append] at end_lost fewer ⊢
    have rest := sigmas_le (d := d) fewer.2
    simp only [loweredBy, image, end_lost, List.count_append]
    simp
    omega
  | cons c u ih =>
    rw [List.cons_append] at fewer ⊢
    have first := image_sigmas_le (d := d) fewer.1
    have rest := ih fewer.2 (by simpa using end_lost)
    simp only [loweredBy, List.count_append]
    omega

/-! ### Blank ends -/

structure Caseless (d : Casing) (c : Char) : Prop where
  uncased : d.isCased c = false
  unskipped : d.isIgnorable c = false
  unchanged : d.lower c = [c]
  no_sigma : c ≠ 'Σ' ∧ c ≠ 'ς' ∧ c ≠ 'σ'

theorem caseless_of_blank {c : Char} (blank : isBlankChar c = true) : d.Caseless c := by
  obtain ⟨uncased, unskipped, unchanged⟩ := d.of_blank c blank
  refine ⟨uncased, unskipped, unchanged, ?_⟩
  refine ⟨?_, ?_, ?_⟩ <;> rintro rfl <;> exact absurd blank (by decide)

theorem loweredBy_blank {ws : Text} (blank : isBlank ws = true) (before : Text) :
    d.loweredBy ends before ws = ws := by
  induction ws generalizing before with
  | nil => rfl
  | cons w ws ih =>
    simp only [isBlank, List.all_cons, Bool.and_eq_true] at blank
    have aside := caseless_of_blank (d := d) blank.1
    rw [loweredBy, ih blank.2, image, if_neg aside.no_sigma.1, aside.unchanged]
    rfl

theorem startsCased_append_blank {ws : Text} (blank : isBlank ws = true) (t : Text) :
    d.startsCased (t ++ ws) = d.startsCased t := by
  have uncased : (d.leads? ws).getD false = false := by
    cases ws with
    | nil => rfl
    | cons w ws =>
      simp only [isBlank, List.all_cons, Bool.and_eq_true] at blank
      have aside := caseless_of_blank (d := d) blank.1
      simp [leads?, aside.unskipped, aside.uncased]
  rw [startsCased_eq, startsCased_eq, leads?_append]
  cases d.leads? t with
  | none => simpa using uncased
  | some cased => rfl

theorem undisturbed_of_blank {front back : Text} (left : isBlank front = true)
    (right : isBlank back = true) (m : Text) : d.Undisturbed front m back := by
  have turned : isBlank front.reverse = true := by rwa [isBlank, List.all_reverse]
  refine atSigmas_iff.mpr fun u v _ => ?_
  rw [endsWord, endsWord, startsCased_append_blank turned, startsCased_append_blank right]

theorem lowered_trim (m : Text) :
    ∃ front back, isBlank front = true ∧ isBlank back = true ∧
      d.lowered m = front ++ d.lowered (trim m) ++ back := by
  obtain ⟨front, back, left, right, parts⟩ := trim_parts m
  refine ⟨front, back, left, right, ?_⟩
  calc d.lowered m = d.lowered (front ++ trim m ++ back) := congrArg d.lowered parts
    _ = front ++ d.lowered (trim m) ++ back := by
      rw [lowered_of_undisturbed (undisturbed_of_blank left right _), loweredBy_blank left,
        loweredBy_blank right]

theorem lowered_trim_infix (m : Text) : d.lowered (trim m) <:+: d.lowered m := by
  obtain ⟨front, back, _, _, whole⟩ := lowered_trim m
  rw [whole]
  exact List.infix_append _ _ _

theorem count_lowered_trim (m : Text) :
    (d.lowered m).count 'ς' = (d.lowered (trim m)).count 'ς' ∧
      (d.lowered m).count 'σ' = (d.lowered (trim m)).count 'σ' := by
  obtain ⟨front, back, left, right, whole⟩ := lowered_trim (d := d) m
  have absent {ws : Text} (blank : isBlank ws = true) : 'ς' ∉ ws ∧ 'σ' ∉ ws := by
    constructor <;> exact fun member =>
      absurd (List.all_eq_true.mp blank _ member) (by decide)
  simp [whole, List.count_append, List.count_eq_zero_of_not_mem, absent left, absent right]

/-! ### Parts that are found in every whole -/

theorem unsettled {before after : Text} (loose : ¬d.Settled before after) :
    d.leads? before = some true ∧ d.leads? after = none ∨
      d.leads? before = none ∧ d.leads? after ≠ some true := by
  unfold Settled at loose
  cases left : d.leads? before with
  | none => exact .inr ⟨rfl, fun cased => loose (.inr (.inl cased))⟩
  | some l =>
    have right : d.leads? after = none := by
      rw [← Option.not_isSome_iff_eq_none]
      exact fun some => loose (.inr (.inr ⟨by rw [left]; rfl, some⟩))
    cases l with
    | false => exact absurd (.inl left) loose
    | true => exact .inl ⟨rfl, right⟩

theorem leads?_letter : d.leads? ['A'] = some true := by
  obtain ⟨cased, unskipped, _⟩ := d.of_letter
  simp [leads?, cased, unskipped]

theorem image_letter (before after : Text) : d.image ends before 'A' after = ['a'] := by
  rw [image, if_neg (by decide), d.of_letter.2.2]

theorem endsWord_of_behind {before after : Text}
    (ended : d.endsWord before (after ++ ['A']) = true) : d.endsWord before after = true := by
  simp only [endsWord, startsCased_eq, leads?_append, leads?_letter] at ended ⊢
  generalize d.leads? after = right at ended ⊢
  rcases right with _ | _ | _ <;> simp_all

theorem endsWord_ahead {before after : Text} (ended : d.endsWord before after = true) :
    d.endsWord (before ++ ['A']) after = true := by
  simp only [endsWord, startsCased_eq, leads?_append, leads?_letter] at ended ⊢
  generalize d.leads? before = left at ended ⊢
  rcases left with _ | _ | _ <;> simp_all

theorem lowered_behind (m : Text) :
    d.lowered (m ++ ['A']) = d.loweredBy (fun b a => d.endsWord b (a ++ ['A'])) [] m ++ ['a'] := by
  rw [lowered, lowerAfter_eq, loweredBy_append, loweredBy, image_letter]
  rfl

theorem lowered_ahead (m : Text) :
    d.lowered ('A' :: m) = 'a' :: d.loweredBy (fun b a => d.endsWord (b ++ ['A']) a) [] m := by
  rw [lowered, lowerAfter_eq, loweredBy, image_letter, ← List.nil_append ['A'], loweredBy_after]
  rfl

/-- A letter behind a text, and one in front of it, tell whether its sigmas are steady. -/
theorem steady_of_infix {m : Text} (behind : d.lowered (trim m) <:+: d.lowered (m ++ ['A']))
    (ahead : d.lowered (trim m) <:+: d.lowered ('A' :: m)) : d.Steady m := by
  refine atSigmas_iff.mpr fun u v split => ?_
  rw [List.append_nil]
  by_contra loose
  obtain ⟨finals, others⟩ := count_lowered_trim (d := d) m
  rw [lowered, lowerAfter_eq, split] at finals others
  rcases unsettled loose with ⟨left, right⟩ | ⟨left, right⟩
  · -- a final sigma changes if a word goes on behind the text
    have fewer : AtSigmas (fun b a => d.endsWord b (a ++ ['A']) → d.endsWord b a) []
        (u ++ 'Σ' :: v) := atSigmas_iff.mpr fun _ _ _ => endsWord_of_behind
    have lost := (sigmas_lt (d := d) fewer
      (by simp [endsWord, startsCased_eq, leads?_append, leads?_letter, left, right])).1
    have enough := behind.sublist.count_le 'ς'
    have none : List.count 'ς' ['a'] = 0 := by decide
    rw [lowered_behind, List.count_append, none, split] at enough
    rw [finals] at lost
    exact Nat.not_le_of_lt lost enough
  · -- another sigma becomes final if a word begins in front of the text
    have fewer : AtSigmas (fun b a => d.endsWord b a → d.endsWord (b ++ ['A']) a) []
        (u ++ 'Σ' :: v) := atSigmas_iff.mpr fun _ _ _ => endsWord_ahead
    have uncased : (d.leads? v).getD false = false := by
      rcases h : d.leads? v with _ | _ | _
      · rfl
      · rfl
      · exact absurd h right
    have lost := (sigmas_lt (d := d) fewer
      (by simp [endsWord, startsCased_eq, leads?_append, leads?_letter, left, uncased])).2
    have enough := ahead.sublist.count_le 'σ'
    rw [lowered_ahead, List.count_cons_of_ne (by decide), split] at enough
    rw [others] at lost
    exact Nat.not_le_of_lt lost enough

end Casing

end BookingRetry.Text
