import BookingRetry.Proofs.Text.LetterCase
import BookingRetry.Proofs.Verdict

/-!
What the kind of a failure does not hang on. Markers may be told in any order and more than once,
with blanks around them, with blank ones among them, and letters A to Z may be small or capital, in
the markers and in the text of the failure. More markers never make a failure less grave, and
markers of an exhausted stock never make it bad input.
-/
namespace BookingRetry

def FailureKind.rank : FailureKind → Nat
  | .transient => 0
  | .unavailable => 1
  | .input => 2

namespace MarkerSet

/-- The second list of markers is the first one, told differently. -/
inductive Retold : List Text → List Text → Prop where
  | ordered {ms ms' : List Text} (same : ms.Perm ms') : Retold ms ms'
  | repeated (m : Text) (ms : List Text) : Retold (m :: ms) (m :: m :: ms)
  | padded {front back : Text} (left : Text.isBlank front = true) (right : Text.isBlank back = true)
      (m : Text) (ms : List Text) : Retold (m :: ms) ((front ++ m ++ back) :: ms)
  | blank {b : Text} (blank : Text.isBlank b = true) (ms : List Text) : Retold ms (b :: ms)
  | recased {m m' : Text} (same : Text.SameLetters m m') (ms : List Text) :
      Retold (m :: ms) (m' :: ms)
  | back {ms ms' : List Text} (there : Retold ms ms') : Retold ms' ms
  | trans {ms ms' ms'' : List Text} (first : Retold ms ms') (second : Retold ms' ms'') :
      Retold ms ms''

variable {d : Text.Casing} {ms ms' : List Text}

/-! ### What is looked for -/

theorem mem_normalized_cons {part m : Text} :
    part ∈ normalized d (m :: ms) ↔
      (Text.isBlank m = false ∧ part = d.lowered (Text.trim m)) ∨ part ∈ normalized d ms := by
  simp only [normalized, List.map_cons, List.filter_cons, Bool.not_eq_true',
    List.isEmpty_eq_false_iff]
  by_cases blank : Text.isBlank m = true
  · have nothing : d.lowered (Text.trim m) = [] :=
      Text.Casing.lowered_eq_nil.mpr (Text.trim_eq_nil_iff.mpr blank)
    simp [nothing, blank]
  · have something : d.lowered (Text.trim m) ≠ [] := by
      intro nothing
      exact blank (Text.trim_eq_nil_iff.mp (Text.Casing.lowered_eq_nil.mp nothing))
    simp [something, blank]

theorem Retold.mem_normalized (retold : Retold ms ms') (part : Text) :
    part ∈ normalized d ms ↔ part ∈ normalized d ms' := by
  induction retold with
  | ordered same => exact ((same.map _).filter _).mem_iff
  | repeated m ms =>
    simp only [mem_normalized_cons]
    tauto
  | padded left right m ms =>
    have blank := Text.isBlank_padded left right m
    simp only [mem_normalized_cons, Text.trim_padded left right, blank]
  | blank blank ms => simp [mem_normalized_cons, blank]
  | recased same ms =>
    simp only [mem_normalized_cons, same.isBlank_eq, d.lowered_congr same.trim]
  | back there ih => exact ih.symm
  | trans first second ih ih' => exact ih.trans ih'

theorem hits_mono {t : Text} (more : ∀ part ∈ normalized d ms, part ∈ normalized d ms')
    (found : hits d ms t = true) : hits d ms' t = true := by
  unfold hits at found ⊢
  rw [List.any_eq_true] at found ⊢
  obtain ⟨part, looked, inside⟩ := found
  exact ⟨part, more part looked, inside⟩

theorem Retold.hits_eq (retold : Retold ms ms') (t : Text) : hits d ms t = hits d ms' t := by
  rw [Bool.eq_iff_iff]
  constructor
  · apply hits_mono
    intro part
    exact (retold.mem_normalized part).mp
  · apply hits_mono
    intro part
    exact (retold.mem_normalized part).mpr

theorem normalized_subset (more : ms ⊆ ms') : normalized d ms ⊆ normalized d ms' :=
  List.filter_subset _ (List.map_subset _ more)

/-! ### The kind of a failure -/

variable {s s' : MarkerSet}

theorem kindIn_retold {message message' : Text} (input : Retold s.input s'.input)
    (unavailable : Retold s.unavailable s'.unavailable)
    (letters : Text.SameLetters message message') :
    s.kindIn d message = s'.kindIn d message' := by
  simp only [kindIn, d.lowered_congr letters, input.hits_eq, unavailable.hits_eq]

theorem rank_mono (input : s.input ⊆ s'.input) (unavailable : s.unavailable ⊆ s'.unavailable)
    (message : Text) : (s.kindIn d message).rank ≤ (s'.kindIn d message).rank := by
  have moreInput := @hits_mono d _ _ (d.lowered message) (normalized_subset input)
  have moreUnavailable := @hits_mono d _ _ (d.lowered message) (normalized_subset unavailable)
  simp only [kindIn]
  split
  · rename_i found
    simp [moreInput found]
  · split
    · rename_i found
      split
      · decide
      · simp [moreUnavailable found]
    · exact Nat.zero_le _

theorem input_of_markers (more : List Text) (message : Text) :
    (⟨more, s.input⟩ : MarkerSet).kindIn d message = .input ↔ s.kindIn d message = .input := by
  rw [kindIn_eq_input_iff, kindIn_eq_input_iff]

theorem verdictIn_failed (d : Text.Casing) (s : MarkerSet) (message : Text) :
    s.verdictIn d (.failed message) =
      if s.kindIn d message = .input then .fatal .input message
      else .retryable (s.kindIn d message) message := by
  simp only [verdictIn]
  split
  · rename_i bad
    rw [if_pos bad]
  · rename_i other
    rw [if_neg other]

/-- The kind of a failure hangs neither on the order, the repetition or the blanks of the markers
nor on the case of letters, and only bad input ends a run. -/
theorem kind_insensitive_monotone (d : Text.Casing) (s s' : MarkerSet)
    (message message' : Text) :
    (Retold s.input s'.input → Retold s.unavailable s'.unavailable →
      Text.SameLetters message message' → s.kindIn d message = s'.kindIn d message') ∧
    (s.input ⊆ s'.input → s.unavailable ⊆ s'.unavailable →
      (s.kindIn d message).rank ≤ (s'.kindIn d message).rank) ∧
    (∀ more, (⟨more, s.input⟩ : MarkerSet).kindIn d message = .input ↔
      s.kindIn d message = .input) ∧
    (∀ detail, s.verdictIn d (.reserved detail) = .success detail) ∧
    s.verdictIn d (.failed message) =
      if s.kindIn d message = .input then .fatal .input message
      else .retryable (s.kindIn d message) message :=
  ⟨kindIn_retold, fun input unavailable => rank_mono input unavailable message,
    fun more => input_of_markers more message, fun _ => rfl, verdictIn_failed d s message⟩

def plainMarkers : MarkerSet := ⟨[lit "sold out", lit "Κλειστός"], [lit "ΛΑΘΟΣ no. 7"]⟩

def retoldMarkers : MarkerSet :=
  ⟨[lit "Κλειστός", lit " ", lit "sold out"], [lit "ΛΑΘΟΣ no. 7", lit "\tΛΑΘΟΣ NO. 7 "]⟩

theorem retold_markers_alike :
    Retold plainMarkers.input retoldMarkers.input ∧
      Retold plainMarkers.unavailable retoldMarkers.unavailable ∧
      Text.SameLetters (lit "a ΛΑΘΟΣ No. 7") (lit "A ΛΑΘΟΣ nO. 7") ∧
      plainMarkers.input ⊆ retoldMarkers.input ∧
      plainMarkers.unavailable ⊆ retoldMarkers.unavailable ∧
      plainMarkers.failureKind (lit "a ΛΑΘΟΣ No. 7") = .input ∧
      retoldMarkers.failureKind (lit "A ΛΑΘΟΣ nO. 7") = .input ∧
      2 ≤ (retoldMarkers.failureKind (lit "a ΛΑΘΟΣ No. 7")).rank := by
  have again : Retold plainMarkers.input
      [lit "\t" ++ lit "ΛΑΘΟΣ NO. 7" ++ lit " ", lit "ΛΑΘΟΣ no. 7"] :=
    .trans (.repeated _ []) (.trans (.recased (by decide +kernel) _)
      (.padded (by decide +kernel) (by decide +kernel) _ _))
  have input : Retold plainMarkers.input retoldMarkers.input :=
    .trans again (.ordered (.swap _ _ []))
  have unavailable : Retold plainMarkers.unavailable retoldMarkers.unavailable :=
    .trans (.blank (b := lit " ") (by decide +kernel) _) (.ordered (by decide +kernel))
  have letters : Text.SameLetters (lit "a ΛΑΘΟΣ No. 7") (lit "A ΛΑΘΟΣ nO. 7") := by decide +kernel
  have moreInput : plainMarkers.input ⊆ retoldMarkers.input := by decide +kernel
  have moreUnavailable : plainMarkers.unavailable ⊆ retoldMarkers.unavailable := by decide +kernel
  have bad : plainMarkers.failureKind (lit "a ΛΑΘΟΣ No. 7") = .input := by decide +kernel
  obtain ⟨kept, graver, _⟩ := kind_insensitive_monotone .unicode plainMarkers retoldMarkers
    (lit "a ΛΑΘΟΣ No. 7") (lit "A ΛΑΘΟΣ nO. 7")
  refine ⟨input, unavailable, letters, moreInput, moreUnavailable, bad, ?_, ?_⟩
  · exact (kept input unavailable letters).symm.trans bad
  · exact (congrArg FailureKind.rank bad).ge.trans (graver moreInput moreUnavailable)

end MarkerSet

end BookingRetry
