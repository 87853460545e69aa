import BookingRetry.Text.Basic
import Mathlib.Data.List.Forall2

/-!
What a text contains and how it ends; cutting it at its start, at its end, at a mark and at each
separator gives the parts that make it up. Words are compared in letters of either case.
-/
namespace BookingRetry.Text

theorem not_mem_of_all {t : Text} {p : Char → Bool} (all : t.all p = true) {c : Char}
    (other : p c = false) : c ∉ t := by
  intro member
  have inside := List.all_eq_true.mp all c member
  rw [other] at inside
  contradiction

theorem last_of_append (front : Text) {t : Text} (some : t ≠ []) :
    (front ++ t).getLast? = t.getLast? := by
  rw [List.getLast?_append, List.getLast?_eq_some_getLast some]
  rfl

/-! ### Cutting -/

theorem after?_eq_some {opening t rest : Text} (found : after? opening t = some rest) :
    t = opening ++ rest := by
  induction opening generalizing t with
  | nil => exact Option.some.inj found
  | cons o os ih =>
    cases t with
    | nil => contradiction
    | cons c cs =>
      simp only [after?] at found
      split at found
      · rename_i same
        rw [same, ih found]
        rfl
      · contradiction

theorem after?_append (opening rest : Text) : after? opening (opening ++ rest) = some rest := by
  induction opening with
  | nil => cases rest <;> rfl
  | cons o os ih => simp [after?, ih]

theorem before?_eq_some {closing t front : Text} (found : before? closing t = some front) :
    t = front ++ closing := by
  unfold before? at found
  obtain ⟨reversed, start, rfl⟩ := Option.map_eq_some_iff.mp found
  have turned := congrArg List.reverse (after?_eq_some start)
  simpa using turned

theorem before?_append (front closing : Text) :
    before? closing (front ++ closing) = some front := by
  unfold before?
  rw [List.reverse_append, after?_append]
  simp

theorem cut?_eq_some {mark t front rest : Text} (found : cut? mark t = some (front, rest)) :
    t = front ++ mark ++ rest := by
  induction t generalizing front with
  | nil =>
    simp only [cut?] at found
    split at found
    · rename_i nothing
      cases found
      rw [nothing]
      rfl
    · contradiction
  | cons c cs ih =>
    simp only [cut?] at found
    split at found
    · rename_i after found'
      cases found
      exact after?_eq_some found'
    · obtain ⟨⟨left, right⟩, later, eq⟩ := Option.map_eq_some_iff.mp found
      cases eq
      rw [ih later]
      rfl

theorem after?_isSome_iff {opening t : Text} :
    (after? opening t).isSome = true ↔ opening <+: t := by
  constructor
  · intro found
    obtain ⟨rest, found⟩ := Option.isSome_iff_exists.mp found
    exact ⟨rest, (after?_eq_some found).symm⟩
  · rintro ⟨rest, rfl⟩
    rw [after?_append]
    rfl

theorem hasPart_iff {part t : Text} : hasPart part t = true ↔ part <:+: t := by
  induction t with
  | nil => rw [hasPart, List.isEmpty_iff, List.infix_nil]
  | cons c cs ih => rw [hasPart, Bool.or_eq_true, after?_isSome_iff, ih, List.infix_cons_iff]

theorem cut?_append {m : Char} {front : Text} (absent : m ∉ front) (ms rest : Text) :
    cut? (m :: ms) (front ++ (m :: ms ++ rest)) = some (front, rest) := by
  induction front with
  | nil =>
    have found := after?_append (m :: ms) rest
    simp only [List.cons_append, List.nil_append] at found ⊢
    rw [cut?, found]
  | cons c cs ih =>
    have differs : m ≠ c := fun same => absent (same ▸ List.mem_cons_self)
    have later := ih fun member => absent (List.mem_cons_of_mem _ member)
    simp only [List.cons_append] at later ⊢
    simp [cut?, after?, differs, later]

/-! ### Pieces -/

theorem pieces_eq_splitOn (sep : Char) (t : Text) : pieces sep t = t.splitOn sep := by
  induction t with
  | nil => rfl
  | cons c cs ih =>
    have some := List.splitOn_ne_nil sep cs
    rw [pieces, ih, List.splitOn_cons_eq_if_modifyHead]
    by_cases same : c = sep
    · simp [same]
    · cases eq : cs.splitOn sep with
      | nil => contradiction
      | cons p ps => simp [same]

theorem joined_eq_intercalate (sep : Text) (ls : List Text) :
    joined sep ls = sep.intercalate ls := by
  induction ls with
  | nil => rfl
  | cons l ls ih =>
    cases ls with
    | nil => simp [joined]
    | cons l' ls => rw [joined, ih, List.intercalate_cons_cons]

theorem not_mem_pieces (sep : Char) (t : Text) : ∀ p ∈ pieces sep t, sep ∉ p := by
  induction t with
  | nil => simp [pieces]
  | cons c cs ih =>
    unfold pieces
    by_cases same : c = sep
    · simpa [same] using ih
    · rw [if_neg same]
      cases rest : pieces sep cs with
      | nil => simp [Ne.symm same]
      | cons p ps =>
        rw [rest, List.forall_mem_cons] at ih
        simpa [Ne.symm same] using ih

/-- The pieces of a text are the texts without the separator that make it up when joined. -/
theorem pieces_eq_iff {sep : Char} {t : Text} {ps : List Text} :
    pieces sep t = ps ↔ ps ≠ [] ∧ (∀ p ∈ ps, sep ∉ p) ∧ t = joined [sep] ps := by
  rw [joined_eq_intercalate]
  constructor
  · rintro rfl
    refine ⟨?_, not_mem_pieces sep t, ?_⟩ <;> rw [pieces_eq_splitOn]
    · exact List.splitOn_ne_nil sep t
    · exact (List.intercalate_splitOn sep).symm
  · rintro ⟨some, clean, rfl⟩
    rw [pieces_eq_splitOn]
    exact List.splitOn_intercalate sep clean some

/-! ### Letters of either case -/

def EitherCase (word t : Text) : Prop :=
  List.Forall₂ (fun small c => c = small ∨ c = small.toUpper) word t

theorem toLower_toNat (c : Char) :
    c.toLower.toNat = if 65 ≤ c.toNat ∧ c.toNat ≤ 90 then c.toNat + 32 else c.toNat := by
  unfold Char.toLower
  by_cases capital : c.val ≥ 'A'.val ∧ c.val ≤ 'Z'.val
  · have bounds : 65 ≤ c.toNat ∧ c.toNat ≤ 90 := capital
    rw [dif_pos capital, if_pos bounds]
    show (c.val + 32).toNat = _
    rw [UInt32.toNat_add]
    show (c.toNat + 32) % 4294967296 = _
    omega
  · have bounds : ¬(65 ≤ c.toNat ∧ c.toNat ≤ 90) := capital
    rw [dif_neg capital, if_neg bounds]

theorem toUpper_toNat {small : Char} (letter : small.isLower = true) :
    97 ≤ small.toNat ∧ small.toNat ≤ 122 ∧ small.toUpper.toNat + 32 = small.toNat := by
  have both : (decide ('a'.val ≤ small.val) && decide (small.val ≤ 'z'.val)) = true := letter
  have range : 'a'.val ≤ small.val ∧ small.val ≤ 'z'.val := by
    rwa [Bool.and_eq_true, decide_eq_true_iff, decide_eq_true_iff] at both
  have bounds : 97 ≤ small.toNat ∧ small.toNat ≤ 122 := range
  refine ⟨bounds.1, bounds.2, ?_⟩
  unfold Char.toUpper
  rw [dif_pos range]
  show (small.val + ('A'.val - 'a'.val)).toNat + 32 = _
  rw [UInt32.toNat_add]
  show (small.toNat + 4294967264) % 4294967296 + 32 = _
  omega

theorem toLower_eq_iff {c small : Char} (letter : small.isLower = true) :
    c.toLower = small ↔ c = small ∨ c = small.toUpper := by
  obtain ⟨low, high, capital⟩ := toUpper_toNat letter
  simp only [← Char.toNat_inj, toLower_toNat]
  split <;> omega

theorem map_toLower_eq_iff {word : Text} (letters : ∀ c ∈ word, c.isLower = true) (t : Text) :
    t.map Char.toLower = word ↔ EitherCase word t := by
  unfold EitherCase
  induction word generalizing t with
  | nil => simp
  | cons small word ih =>
    rw [List.forall_mem_cons] at letters
    cases t with
    | nil => simp
    | cons c cs => simp [toLower_eq_iff letters.1, ih letters.2]

end BookingRetry.Text
