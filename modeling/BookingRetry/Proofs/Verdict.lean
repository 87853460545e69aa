import BookingRetry.Proofs.Text.Lowercase
import BookingRetry.Verdict

/-!
Where a marker is recognised. The markers and the text of a failure are lower-cased apart from
each other, so a text that has a marker as a part is known by it as long as the marker's sigmas
are the same there as they are in the marker alone.
-/
namespace BookingRetry.MarkerSet

variable {d : Text.Casing}

theorem hits_iff {markers : List Text} {t : Text} :
    hits d markers t = true ↔
      ∃ m ∈ markers, Text.isBlank m = false ∧ d.lowered (Text.trim m) <:+: t := by
  simp only [hits, normalized, List.any_filter, List.any_map, List.any_eq_true, Function.comp,
    Bool.and_eq_true, Text.hasPart_iff, Bool.not_eq_true', List.isEmpty_eq_false_iff, ne_eq,
    Text.Casing.lowered_eq_nil, Text.trim_eq_nil_iff, Bool.not_eq_true]

theorem kindIn_eq_input_iff {s : MarkerSet} {message : Text} :
    s.kindIn d message = .input ↔ hits d s.input (d.lowered message) = true := by
  simp only [kindIn]
  split
  · simp_all
  · split <;> simp_all

theorem kindIn_eq_transient_iff {s : MarkerSet} {message : Text} :
    s.kindIn d message = .transient ↔ hits d s.input (d.lowered message) = false ∧
      hits d s.unavailable (d.lowered message) = false := by
  simp only [kindIn]
  split
  · simp_all
  · split <;> simp_all

/-- A text in which this entry of the input list occurs is known as bad input, whatever the other
entries are. -/
def InputWherever (d : Text.Casing) (m : Text) : Prop :=
  ∀ (s : MarkerSet) (a b : Text), m ∈ s.input → s.kindIn d (a ++ m ++ b) = .input

/-- A text in which this entry of the unavailable list occurs is never taken for transient. -/
def UnavailableWherever (d : Text.Casing) (m : Text) : Prop :=
  ∀ (s : MarkerSet) (a b : Text), m ∈ s.unavailable → s.kindIn d (a ++ m ++ b) ≠ .transient

variable {m : Text}

theorem steady_of_hits (found : ∀ a b, hits d [m] (d.lowered (a ++ m ++ b)) = true) :
    d.Steady m := by
  have inside (a b : Text) : d.lowered (Text.trim m) <:+: d.lowered (a ++ m ++ b) := by
    obtain ⟨_, listed, _, part⟩ := hits_iff.mp (found a b)
    rwa [List.mem_singleton.mp listed] at part
  exact Text.Casing.steady_of_infix (inside [] ['A']) (by simpa using inside ['A'] [])

theorem steady_of_input (everywhere : InputWherever d m) : d.Steady m :=
  steady_of_hits fun a b =>
    kindIn_eq_input_iff.mp (everywhere ⟨[], [m]⟩ a b (List.mem_singleton_self m))

theorem steady_of_unavailable (everywhere : UnavailableWherever d m) : d.Steady m := by
  refine steady_of_hits fun a b => ?_
  by_contra missed
  exact everywhere ⟨[m], []⟩ a b (List.mem_singleton_self m)
    (kindIn_eq_transient_iff.mpr ⟨rfl, Bool.not_eq_true _ ▸ missed⟩)

theorem hits_around {markers : List Text} {a b : Text} (visible : Text.isBlank m = false)
    (kept : d.Undisturbed a m b) (listed : m ∈ markers) :
    hits d markers (d.lowered (a ++ m ++ b)) = true :=
  hits_iff.mpr ⟨m, listed, visible,
    (Text.Casing.lowered_trim_infix m).trans (Text.Casing.lowered_infix kept)⟩

theorem known_around {s : MarkerSet} {a b : Text} (visible : Text.isBlank m = false)
    (kept : d.Undisturbed a m b) :
    (m ∈ s.input → s.kindIn d (a ++ m ++ b) = .input) ∧
      (m ∈ s.unavailable → s.kindIn d (a ++ m ++ b) ≠ .transient) := by
  constructor
  · exact fun listed => kindIn_eq_input_iff.mpr (hits_around visible kept listed)
  · intro listed transient
    have missed := (kindIn_eq_transient_iff.mp transient).2
    rw [hits_around visible kept listed] at missed
    contradiction

theorem wherever_of_steady (visible : Text.isBlank m = false) (steady : d.Steady m) :
    InputWherever d m ∧ UnavailableWherever d m :=
  ⟨fun _ a b => (known_around visible (steady.undisturbed a b)).1,
    fun _ a b => (known_around visible (steady.undisturbed a b)).2⟩

theorem default_markers_recognised :
    ∀ m ∈ defaultInput ++ defaultUnavailable, InputWherever d m ∧ UnavailableWherever d m := by
  have plain : ∀ m ∈ defaultInput ++ defaultUnavailable, Text.isBlank m = false ∧ 'Σ' ∉ m := by
    decide +kernel
  intro m member
  obtain ⟨visible, none⟩ := plain m member
  exact wherever_of_steady visible (Text.atSigmas_of_none none)

/-- Where a marker occurs, it is recognised if the text around it leaves its sigmas as they are.
It is recognised in all texts exactly if no text around it can change one. -/
theorem marker_recognised_iff (d : Text.Casing) (m : Text) (visible : Text.isBlank m = false) :
    (∀ (s : MarkerSet) (a b : Text), d.Undisturbed a m b →
      (m ∈ s.input → s.kindIn d (a ++ m ++ b) = .input) ∧
        (m ∈ s.unavailable → s.kindIn d (a ++ m ++ b) ≠ .transient)) ∧
      (InputWherever d m ↔ d.Steady m) ∧ (UnavailableWherever d m ↔ d.Steady m) :=
  ⟨fun _ _ _ kept => known_around visible kept,
    ⟨steady_of_input, fun steady => (wherever_of_steady visible steady).1⟩,
    ⟨steady_of_unavailable, fun steady => (wherever_of_steady visible steady).2⟩⟩

theorem steady_marker_recognised :
    Text.isBlank (lit "ΛΑΘΟΣ ΚΩΔΙΚΟΥ ") = false ∧
      InputWherever .unicode (lit "ΛΑΘΟΣ ΚΩΔΙΚΟΥ ") ∧
      UnavailableWherever .unicode (lit "ΛΑΘΟΣ ΚΩΔΙΚΟΥ ") := by
  have visible : Text.isBlank (lit "ΛΑΘΟΣ ΚΩΔΙΚΟΥ ") = false := by decide +kernel
  have steady : Text.Casing.unicode.Steady (lit "ΛΑΘΟΣ ΚΩΔΙΚΟΥ ") := by decide +kernel
  obtain ⟨_, input, unavailable⟩ := marker_recognised_iff .unicode (lit "ΛΑΘΟΣ ΚΩΔΙΚΟΥ ") visible
  exact ⟨visible, input.mpr steady, unavailable.mpr steady⟩

theorem last_sigma_missed :
    Text.isBlank (lit "ΛΑΘΟΣ") = false ∧
      (⟨[], [lit "ΛΑΘΟΣ"]⟩ : MarkerSet).failureKind ([] ++ lit "ΛΑΘΟΣ" ++ lit ":ΚΩΔΙΚΟΣ") =
        .transient ∧
      ¬(InputWherever .unicode (lit "ΛΑΘΟΣ") ∧ UnavailableWherever .unicode (lit "ΛΑΘΟΣ")) := by
  have visible : Text.isBlank (lit "ΛΑΘΟΣ") = false := by decide +kernel
  have missed : (⟨[], [lit "ΛΑΘΟΣ"]⟩ : MarkerSet).failureKind
      ([] ++ lit "ΛΑΘΟΣ" ++ lit ":ΚΩΔΙΚΟΣ") = .transient := by decide +kernel
  refine ⟨visible, missed, fun ⟨input, _⟩ => ?_⟩
  have found := input ⟨[], [lit "ΛΑΘΟΣ"]⟩ [] (lit ":ΚΩΔΙΚΟΣ") (List.mem_singleton_self _)
  exact absurd (missed.symm.trans found) (by decide)

end BookingRetry.MarkerSet
