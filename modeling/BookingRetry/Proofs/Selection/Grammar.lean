import BookingRetry.Proofs.Text.Lines
import BookingRetry.Proofs.Text.Numeral
import BookingRetry.Candidate

/-!
The grammar of selections. A selection is read from a blank text, from the word for all of them in
letters of either case, and from a list of places; nothing else is read, and the first part of a
list that names no place says why. A selection that was read is written in a form that is read as
the same one.
-/
namespace BookingRetry.Selection

structure Names (part : Text) (n : Nat) : Prop where
  spelled : Numeral.Spells n (Text.trim part)
  positive : 0 < n
  fits : n ≤ Numeral.maxWord

/-- Why a part names no place: it is no number of sixty-four bits, or it is zero. -/
inductive Misnames (part : Text) : SelectionFault → Prop where
  | notAPlace (other : ∀ n ≤ Numeral.maxWord, ¬ Numeral.Spells n (Text.trim part)) :
      Misnames part (.notAPlace (Text.trim part))
  | zero (spelled : Numeral.Spells 0 (Text.trim part)) : Misnames part .zero

def AsksForAll (t : Text) : Prop :=
  Text.trim t = [] ∨ Text.EitherCase everything (Text.trim t)

structure HasParts (t : Text) (parts : List Text) : Prop where
  some : parts ≠ []
  apart : ∀ part ∈ parts, ',' ∉ part
  whole : Text.trim t = Text.joined [','] parts

def Lists (t : Text) (named : List Nat) : Prop :=
  ∃ parts, HasParts t parts ∧ List.Forall₂ Names parts named

structure FirstNamed (named places : List Nat) : Prop where
  same : ∀ n, n ∈ places ↔ n ∈ named
  once : places.Nodup
  ordered : places.Pairwise fun a b => named.idxOf a < named.idxOf b

inductive Denotes (t : Text) : Selection → Prop where
  | all (asks : AsksForAll t) : Denotes t .all
  | places {named places : List Nat} (lists : Lists t named) (firsts : FirstNamed named places) :
      Denotes t (.places places)

/-- The text is a list in which every part before a certain one names a place, and that one does
not. -/
structure Breaks (t : Text) (f : SelectionFault) : Prop where
  listed : ¬ AsksForAll t
  first : ∃ before part after, HasParts t (before ++ part :: after) ∧
    (∀ p ∈ before, ∃ n, Names p n) ∧ Misnames part f

/-! ### First occurrences -/

section FirstNamed

variable {named places places' : List Nat} {n : Nat}

theorem firstNamed_nil : FirstNamed [] [] := ⟨by simp, List.nodup_nil, List.Pairwise.nil⟩

theorem firstNamed_self (once : places.Nodup) : FirstNamed places places where
  same := by simp
  once := once
  ordered := by
    rw [List.pairwise_iff_getElem]
    intro i j hi hj less
    rwa [once.idxOf_getElem i hi, once.idxOf_getElem j hj]

theorem FirstNamed.ordered_before (firsts : FirstNamed named places) (more : List Nat) :
    places.Pairwise fun a b => (named ++ more).idxOf a < (named ++ more).idxOf b := by
  refine firsts.ordered.imp_of_mem ?_
  intro a b left right less
  have left := (firsts.same a).mp left
  have right := (firsts.same b).mp right
  rwa [List.idxOf_append, List.idxOf_append, if_pos left, if_pos right]

theorem FirstNamed.known (firsts : FirstNamed named places) (old : n ∈ places) :
    FirstNamed (named ++ [n]) places where
  same := by
    have known := (firsts.same n).mp old
    intro m
    rw [firsts.same m, List.mem_append, List.mem_singleton]
    constructor
    · exact Or.inl
    · rintro (before | rfl)
      · exact before
      · exact known
  once := firsts.once
  ordered := firsts.ordered_before [n]

theorem FirstNamed.new (firsts : FirstNamed named places) (new : n ∉ places) :
    FirstNamed (named ++ [n]) (places ++ [n]) where
  same := by
    intro m
    simp [firsts.same m]
  once := by
    rw [List.nodup_append]
    refine ⟨firsts.once, List.pairwise_singleton _ _, ?_⟩
    rintro a member b last rfl
    rw [List.mem_singleton.mp last] at member
    exact new member
  ordered := by
    have unnamed : n ∉ named := fun member => new ((firsts.same n).mpr member)
    rw [List.pairwise_append]
    refine ⟨firsts.ordered_before [n], List.pairwise_singleton _ _, ?_⟩
    intro a member b last
    have before := (firsts.same a).mp member
    have inside := List.idxOf_lt_length_of_mem before
    rw [List.mem_singleton.mp last, List.idxOf_append, List.idxOf_append, if_pos before,
      if_neg unnamed]
    omega

theorem FirstNamed.concat (firsts : FirstNamed named places) (n : Nat) :
    FirstNamed (named ++ [n]) (if n ∈ places then places else places ++ [n]) := by
  by_cases old : n ∈ places
  · rw [if_pos old]
    exact firsts.known old
  · rw [if_neg old]
    exact firsts.new old

theorem FirstNamed.some (firsts : FirstNamed named places) (some : named ≠ []) : places ≠ [] := by
  obtain ⟨n, member⟩ := List.exists_mem_of_ne_nil named some
  exact List.ne_nil_of_mem ((firsts.same n).mpr member)

theorem FirstNamed.unique (firsts : FirstNamed named places) (firsts' : FirstNamed named places') :
    places = places' := by
  have perm : places.Perm places' := by
    rw [List.perm_ext_iff_of_nodup firsts.once firsts'.once]
    intro n
    rw [firsts.same, firsts'.same]
  refine List.Perm.eq_of_pairwise ?_ firsts.ordered firsts'.ordered perm
  intro a b _ _ less more
  omega

end FirstNamed

/-! ### Parts -/

theorem names_iff {part : Text} {n : Nat} :
    Names part n ↔ Numeral.readWord? (Text.trim part) = some n ∧ 0 < n := by
  rw [Numeral.readWord?_eq_some_iff]
  constructor
  · intro names
    exact ⟨⟨names.spelled, names.fits⟩, names.positive⟩
  · rintro ⟨⟨spelled, fits⟩, positive⟩
    exact ⟨spelled, positive, fits⟩

theorem misnames_iff {part : Text} {f : SelectionFault} :
    Misnames part f ↔
      (Numeral.readWord? (Text.trim part) = none ∧ f = .notAPlace (Text.trim part)) ∨
        (Numeral.readWord? (Text.trim part) = some 0 ∧ f = .zero) := by
  have none_iff : Numeral.readWord? (Text.trim part) = none ↔
      ∀ n ≤ Numeral.maxWord, ¬ Numeral.Spells n (Text.trim part) := by
    simp only [Option.eq_none_iff_forall_ne_some, ne_eq, Numeral.readWord?_eq_some_iff, not_and']
  rw [none_iff, Numeral.readWord?_eq_some_iff]
  constructor
  · intro misnames
    cases misnames with
    | notAPlace other => exact Or.inl ⟨other, rfl⟩
    | zero spelled => exact Or.inr ⟨⟨spelled, Nat.zero_le _⟩, rfl⟩
  · rintro (⟨other, rfl⟩ | ⟨⟨spelled, _⟩, rfl⟩)
    · exact .notAPlace other
    · exact .zero spelled

theorem place?_ok_iff {part : Text} {n : Nat} : place? part = .ok n ↔ Names part n := by
  rw [names_iff]
  unfold place?
  dsimp only
  cases Numeral.readWord? (Text.trim part) with
  | none => simp
  | some m =>
    cases m with
    | zero =>
      simp only [Option.some.injEq, reduceCtorEq, false_iff]
      omega
    | succ m =>
      simp only [Except.ok.injEq, Option.some.injEq]
      omega

theorem place?_error_iff {part : Text} {f : SelectionFault} :
    place? part = .error f ↔ Misnames part f := by
  rw [misnames_iff]
  unfold place?
  dsimp only
  cases Numeral.readWord? (Text.trim part) with
  | none => simp [eq_comm]
  | some m => cases m <;> simp [eq_comm]

theorem hasParts_iff {t : Text} {parts : List Text} :
    HasParts t parts ↔ Text.pieces ',' (Text.trim t) = parts := by
  rw [Text.pieces_eq_iff]
  constructor
  · intro has
    exact ⟨has.some, has.apart, has.whole⟩
  · rintro ⟨some, apart, whole⟩
    exact ⟨some, apart, whole⟩

/-! ### Lists of parts -/

section Parts

variable {before seen places : List Nat} {parts : List Text}

theorem placesFrom_ok_iff (firsts : FirstNamed before seen) :
    placesFrom seen parts = .ok places ↔
      ∃ named, List.Forall₂ Names parts named ∧ FirstNamed (before ++ named) places := by
  -- What was named before grows with each part; the places seen stay its first occurrences.
  induction parts generalizing before seen with
  | nil =>
    constructor
    · intro read
      cases read
      exact ⟨[], .nil, by rwa [List.append_nil]⟩
    · rintro ⟨named, names, firsts'⟩
      cases names
      rw [List.append_nil] at firsts'
      exact congrArg Except.ok (firsts.unique firsts')
  | cons part parts ih =>
    unfold placesFrom
    cases first : place? part with
    | error f =>
      constructor
      · intro read
        contradiction
      · rintro ⟨named, names, _⟩
        cases names with
        | cons head tail =>
          rw [place?_ok_iff.mpr head] at first
          contradiction
    | ok n =>
      show placesFrom _ parts = .ok places ↔ _
      rw [ih (firsts.concat n)]
      constructor
      · rintro ⟨named, names, firsts'⟩
        refine ⟨n :: named, .cons (place?_ok_iff.mp first) names, ?_⟩
        simpa using firsts'
      · rintro ⟨named, names, firsts'⟩
        cases names with
        | @cons _ m _ named head tail =>
          rw [place?_ok_iff.mpr head] at first
          cases first
          refine ⟨named, tail, ?_⟩
          simpa using firsts'

theorem placesFrom_error_iff {f : SelectionFault} :
    placesFrom seen parts = .error f ↔ ∃ front part after, parts = front ++ part :: after ∧
      (∀ p ∈ front, ∃ n, Names p n) ∧ Misnames part f := by
  induction parts generalizing seen with
  | nil => simp [placesFrom]
  | cons part parts ih =>
    unfold placesFrom
    cases first : place? part with
    | error g =>
      have wrong := place?_error_iff.mp first
      constructor
      · intro read
        cases read
        exact ⟨[], part, parts, rfl, nofun, wrong⟩
      · rintro ⟨front, part', after, eq, names, misnames⟩
        cases front with
        | nil =>
          cases eq
          rw [place?_error_iff.mpr misnames] at first
          cases first
          rfl
        | cons p front =>
          cases eq
          obtain ⟨n, named⟩ := names _ List.mem_cons_self
          rw [place?_ok_iff.mpr named] at first
          contradiction
    | ok n =>
      have named := place?_ok_iff.mp first
      show placesFrom _ parts = .error f ↔ _
      rw [ih]
      constructor
      · rintro ⟨front, part', after, rfl, names, misnames⟩
        refine ⟨part :: front, part', after, rfl, ?_, misnames⟩
        rw [List.forall_mem_cons]
        exact ⟨⟨n, named⟩, names⟩
      · rintro ⟨front, part', after, eq, names, misnames⟩
        cases front with
        | nil =>
          cases eq
          rw [place?_error_iff.mpr misnames] at first
          contradiction
        | cons p front =>
          cases eq
          rw [List.forall_mem_cons] at names
          exact ⟨front, part', after, rfl, names.2, misnames⟩

end Parts

/-! ### Whole texts -/

section Whole

variable {t : Text}

theorem everything_lower : ∀ c ∈ everything, c.isLower = true := List.all_eq_true.mp rfl

theorem asksForAll_iff :
    ((Text.trim t).isEmpty || decide ((Text.trim t).map Char.toLower = everything)) = true ↔
      AsksForAll t := by
  rw [Bool.or_eq_true, List.isEmpty_iff, decide_eq_true_iff,
    Text.map_toLower_eq_iff everything_lower]
  rfl

theorem read?_of_asks (asks : AsksForAll t) : read? t = .ok .all := by
  unfold read?
  exact if_pos (asksForAll_iff.mpr asks)

theorem read?_of_list (listed : ¬ AsksForAll t) :
    read? t = (placesFrom [] (Text.pieces ',' (Text.trim t))).map places := by
  unfold read?
  exact if_neg fun asks => listed (asksForAll_iff.mp asks)

theorem not_lists_of_asks (asks : AsksForAll t) (named : List Nat) : ¬ Lists t named := by
  have one : ∃ part, Text.pieces ',' (Text.trim t) = [part] ∧
      place? part = .error (.notAPlace part) := by
    rcases asks with nothing | word
    · rw [nothing]
      exact ⟨[], rfl, rfl⟩
    · have letters : List.Forall₂ _ ['a', 'l', 'l'] (Text.trim t) := word
      simp only [List.forall₂_cons_left_iff, List.forall₂_nil_left_iff] at letters
      obtain ⟨a, _, first, ⟨l, _, second, ⟨l', _, third, rfl, rfl⟩, rfl⟩, eq⟩ := letters
      rw [eq]
      refine ⟨[a, l, l'], ?_⟩
      rcases first with rfl | rfl <;> rcases second with rfl | rfl <;>
        rcases third with rfl | rfl <;> exact ⟨rfl, rfl⟩
  rintro ⟨parts, has, names⟩
  obtain ⟨part, whole, wrong⟩ := one
  rw [hasParts_iff, whole] at has
  subst has
  cases names with
  | cons head tail =>
    rw [place?_ok_iff.mpr head] at wrong
    contradiction

theorem read?_ok_iff {s : Selection} : read? t = .ok s ↔ Denotes t s := by
  by_cases asks : AsksForAll t
  · rw [read?_of_asks asks]
    constructor
    · intro read
      cases read
      exact .all asks
    · intro denotes
      cases denotes with
      | all => rfl
      | places lists => exact absurd lists (not_lists_of_asks asks _)
  · rw [read?_of_list asks]
    constructor
    · intro read
      cases placed : placesFrom [] (Text.pieces ',' (Text.trim t)) with
      | error f =>
        rw [placed] at read
        contradiction
      | ok found =>
        rw [placed] at read
        cases read
        obtain ⟨named, names, firsts⟩ := (placesFrom_ok_iff firstNamed_nil).mp placed
        exact .places ⟨_, hasParts_iff.mpr rfl, names⟩ firsts
    · intro denotes
      cases denotes with
      | all asks' => exact absurd asks' asks
      | places lists firsts =>
        obtain ⟨parts, has, names⟩ := lists
        rw [hasParts_iff.mp has, (placesFrom_ok_iff firstNamed_nil).mpr ⟨_, names, firsts⟩]
        rfl

theorem read?_error_iff {f : SelectionFault} : read? t = .error f ↔ Breaks t f := by
  by_cases asks : AsksForAll t
  · rw [read?_of_asks asks]
    constructor
    · intro read
      contradiction
    · intro breaks
      exact absurd asks breaks.listed
  · have parts : read? t = .error f ↔
        placesFrom [] (Text.pieces ',' (Text.trim t)) = .error f := by
      rw [read?_of_list asks]
      cases placesFrom [] (Text.pieces ',' (Text.trim t)) <;> simp [Except.map]
    rw [parts, placesFrom_error_iff]
    constructor
    · rintro ⟨front, part, after, eq, names, misnames⟩
      exact ⟨asks, front, part, after, hasParts_iff.mpr eq, names, misnames⟩
    · intro breaks
      obtain ⟨front, part, after, has, names, misnames⟩ := breaks.first
      exact ⟨front, part, after, hasParts_iff.mp has, names, misnames⟩

end Whole

/-! ### Written selections -/

theorem Lists.some {t : Text} {named : List Nat} (lists : Lists t named) : named ≠ [] := by
  obtain ⟨parts, has, names⟩ := lists
  rintro rfl
  cases names
  exact has.some rfl

theorem Lists.bounded {t : Text} {named : List Nat} (lists : Lists t named) :
    ∀ n ∈ named, 0 < n ∧ n ≤ Numeral.maxWord := by
  obtain ⟨parts, has, names⟩ := lists
  clear has
  induction names with
  | nil => simp
  | cons head tail ih =>
    rw [List.forall_mem_cons]
    exact ⟨⟨head.positive, head.fits⟩, ih⟩

theorem names_written {n : Nat} (positive : 0 < n) (fits : n ≤ Numeral.maxWord) :
    Names (Numeral.written n) n := by
  obtain ⟨some, all, worth⟩ := Numeral.written_digits n
  have visible : ∀ c ∈ Numeral.written n, Text.isBlankChar c = false :=
    fun c member => Numeral.visible_of_digit (List.all_eq_true.mp all c member)
  refine ⟨?_, positive, fits⟩
  rw [Text.trim_of_visible visible]
  exact .bare some all worth

theorem lists_written {ns : List Nat} (some : ns ≠ [])
    (bounded : ∀ n ∈ ns, 0 < n ∧ n ≤ Numeral.maxWord) : Lists (written (.places ns)) ns := by
  have visible : ∀ c ∈ written (.places ns), Text.isBlankChar c = false := by
    intro c member
    rcases Text.mem_joined member with comma | ⟨l, inside, found⟩
    · rw [List.mem_singleton.mp comma]
      rfl
    · obtain ⟨n, _, rfl⟩ := List.mem_map.mp inside
      exact Numeral.visible_of_digit (List.all_eq_true.mp (Numeral.written_digits n).2.1 c found)
  refine ⟨ns.map Numeral.written, ⟨?_, ?_, ?_⟩, ?_⟩
  · simpa using some
  · intro part member
    obtain ⟨n, _, rfl⟩ := List.mem_map.mp member
    exact Numeral.not_mem_written rfl n
  · exact Text.trim_of_visible visible
  · rw [List.forall₂_map_left_iff, List.forall₂_same]
    intro n member
    exact names_written (bounded n member).1 (bounded n member).2

theorem denotes_written {t : Text} {s : Selection} (denotes : Denotes t s) :
    Denotes s.written s := by
  cases denotes with
  | all =>
    refine .all (Or.inr ?_)
    rw [← Text.map_toLower_eq_iff everything_lower]
    rfl
  | places lists firsts =>
    refine .places (lists_written (firsts.some lists.some) ?_) (firstNamed_self firsts.once)
    intro n member
    exact lists.bounded n ((firsts.same n).mp member)

/-- A text is read as what it means and as nothing else, a list that breaks at a part is refused for
that part, places are some and each of them one time, and a selection that was read is read again
from its written form. -/
theorem read?_iff_denotes :
    (∀ t s, read? t = .ok s ↔ Denotes t s) ∧
      (∀ t f, read? t = .error f ↔ Breaks t f) ∧
      (∀ t ns, read? t = .ok (.places ns) → ns ≠ [] ∧ ns.Nodup) ∧
      ∀ t s, read? t = .ok s → read? s.written = .ok s := by
  refine ⟨fun t s => read?_ok_iff, fun t f => read?_error_iff, ?_, ?_⟩
  · intro t ns read
    cases read?_ok_iff.mp read with
    | places lists firsts => exact ⟨firsts.some lists.some, firsts.once⟩
  · intro t s read
    exact read?_ok_iff.mpr (denotes_written (read?_ok_iff.mp read))

theorem untidy_list_read :
    read? (lit "\t+03 , 1,3 ") = .ok (.places [3, 1]) ∧
      Denotes (lit "\t+03 , 1,3 ") (.places [3, 1]) ∧
      read? (lit "3,1") = .ok (.places [3, 1]) := by
  have read : read? (lit "\t+03 , 1,3 ") = .ok (.places [3, 1]) := rfl
  have text : (places [3, 1]).written = lit "3,1" := by decide +kernel
  obtain ⟨accepts, _, _, again⟩ := read?_iff_denotes
  refine ⟨read, (accepts _ _).mp read, ?_⟩
  rw [← text]
  exact again _ _ read

end BookingRetry.Selection
