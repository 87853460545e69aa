import BookingRetry.Config.Engine
import BookingRetry.Proofs.Config.Layers

/-!
Which value each key of a configuration gets. Where the layers fit, every key is settled by itself:
its value is the one in the environment, else the one in the file, else the default, and nothing
that is given for another key matters.
-/
namespace BookingRetry.EngineConfig

open Config

inductive Knob : Type → Type where
  | engineName : Knob Text
  | dataDir : Knob (Option Text)
  | minInterval : Knob Nat
  | summaryEvery : Knob Nat
  | unavailable : Knob (List Text)
  | input : Knob (List Text)

namespace Knob

variable {α : Type}

def name : Knob α → Text
  | engineName => engineNameKey
  | dataDir => dataDirKey
  | minInterval => minIntervalKey
  | summaryEvery => summaryKey
  | unavailable => unavailableKey
  | input => inputKey

def missing : {α : Type} → Knob α → α
  | _, engineName => defaultEngineName
  | _, dataDir => none
  | _, minInterval => 1000
  | _, summaryEvery => 10
  | _, unavailable => MarkerSet.defaultUnavailable
  | _, input => MarkerSet.defaultInput

def want : {α : Type} → Knob α → Setting → Option α
  | _, engineName => Setting.toText?
  | _, dataDir => optionalText?
  | _, minInterval => Setting.toCount?
  | _, summaryEvery => Setting.toCount?
  | _, unavailable => Setting.toTexts?
  | _, input => Setting.toTexts?

def value : {α : Type} → Knob α → EngineConfig → α
  | _, engineName, c => c.engineName
  | _, dataDir, c => c.dataDir
  | _, minInterval, c => c.minIntervalMs
  | _, summaryEvery, c => c.summaryEvery
  | _, unavailable, c => c.markers.unavailable
  | _, input, c => c.markers.input

def layer : Knob α → Layer → Layer
  | unavailable, l => l.inside markersKey
  | input, l => l.inside markersKey
  | _, l => l

def entries (k : Knob α) (l : Layer) : List (List Step × Setting) := (k.layer l).entries k.name

def given? (k : Knob α) (l : Layer) : Option α :=
  match k.entries l with
  | [([], s)] => k.want s
  | _ => none

/-- A layer says nothing about this key, or gives it one value that it can take. -/
def fits (k : Knob α) (l : Layer) : Bool :=
  match k.entries l with
  | [] => true
  | [([], s)] => (k.want s).isSome
  | _ => false

/-- The value in the environment, else the one in the file, else the default. -/
def chosen (k : Knob α) (file environment : Layer) : α :=
  (k.given? environment).getD ((k.given? file).getD k.missing)

end Knob

structure Fits (l : Layer) : Prop where
  knobs : ∀ {α : Type} (k : Knob α), k.fits l = true
  markers : l.keepsTable markersKey = true

def fileOf (h : Host) : Option Text → Except ConfigFault Fields
  | none => .ok []
  | some path => ofFile h path

/-- The layers that a file, if one is named, and an environment make, where they fit. -/
structure Layered (h : Host) (path : Option Text) (file environment : Layer) : Prop where
  reads : ∃ fs, fileOf h path = .ok fs ∧ file = layerOf fs
  given : environment = layerOf (ofVariables h.environment)
  file_fits : Fits file
  environment_fits : Fits environment

/-- The configuration in which each key has the value chosen for it. -/
def combined (file environment : Layer) : EngineConfig where
  engineName := Knob.engineName.chosen file environment
  dataDir := Knob.dataDir.chosen file environment
  minIntervalMs := Knob.minInterval.chosen file environment
  summaryEvery := Knob.summaryEvery.chosen file environment
  markers :=
    { unavailable := Knob.unavailable.chosen file environment
      input := Knob.input.chosen file environment }

section Layers

variable {α : Type} {l file environment : Layer} {root : Setting}

theorem Knob.want_table (k : Knob α) (fs : Fields) : k.want (.table fs) = none := by
  cases k <;> rfl

theorem Knob.wanted_under (k : Knob α) (fits : k.fits l = true) {old : α}
    (before : wanted root.fields k.name k.missing k.want = some old) :
    wanted (Setting.under (k.layer l) root).fields k.name k.missing k.want =
      some ((k.given? l).getD old) := by
  unfold Knob.fits at fits
  unfold Knob.given?
  split at fits
  · rename_i none
    unfold wanted at before ⊢
    rw [Setting.under_other none, none]
    exact before
  · rename_i s one
    obtain ⟨x, converts⟩ := Option.isSome_iff_exists.mp fits
    have plain : ∀ fs, s ≠ .table fs := by
      rintro fs rfl
      rw [k.want_table] at converts
      contradiction
    unfold wanted
    rw [Setting.under_whole plain one, one]
    simp only [converts]
    rfl
  · contradiction

theorem Knob.wanted_both (k : Knob α) (root : Setting) (fits : k.fits file = true)
    (fits' : k.fits environment = true)
    (start : wanted root.fields k.name k.missing k.want = some k.missing) :
    wanted (Setting.under (k.layer environment) (Setting.under (k.layer file) root)).fields
      k.name k.missing k.want = some (k.chosen file environment) :=
  k.wanted_under fits' (k.wanted_under fits start)

theorem markers_under (root : Setting) (keeps : file.keepsTable markersKey = true)
    (keeps' : environment.keepsTable markersKey = true) {fs : Fields}
    (start : root.fields.get? markersKey = some (.table fs)) :
    (Setting.under environment (Setting.under file root)).fields.get? markersKey =
      some (Setting.under (environment.inside markersKey)
        (Setting.under (file.inside markersKey) (.table fs))) := by
  have first := Setting.under_inside keeps start
  obtain ⟨fs', eq⟩ := Setting.under_table (file.inside markersKey) fs
  rw [eq] at first ⊢
  exact Setting.under_inside keeps' first

theorem markersOf?_table {s : Setting} (table : ∃ fs, s = .table fs) {m : MarkerSet}
    (unavailable : wanted s.fields unavailableKey MarkerSet.defaultUnavailable Setting.toTexts? =
      some m.unavailable)
    (input : wanted s.fields inputKey MarkerSet.defaultInput Setting.toTexts? = some m.input) :
    markersOf? s = some m := by
  obtain ⟨fs, rfl⟩ := table
  simp only [Setting.fields] at unavailable input
  simp only [markersOf?, unavailable, input]

theorem layers_read (fits : Fits file) (fits' : Fits environment) :
    ofSettings? (Setting.under environment (Setting.under file (settings {}))) =
      some (combined file environment) := by
  have top : ∀ {α : Type} (k : Knob α), wanted (settings {}).fields k.name k.missing k.want =
      some k.missing → wanted (Setting.under (k.layer environment)
        (Setting.under (k.layer file) (settings {}))).fields k.name k.missing k.want =
      some (k.chosen file environment) := by
    intro α k start
    exact k.wanted_both _ (fits.knobs k) (fits'.knobs k) start
  have inner : ∀ {α : Type} (k : Knob α), wanted (markerSettings .default).fields k.name k.missing
      k.want = some k.missing → wanted (Setting.under (k.layer environment)
        (Setting.under (k.layer file) (markerSettings .default))).fields k.name k.missing k.want =
      some (k.chosen file environment) := by
    intro α k start
    exact k.wanted_both _ (fits.knobs k) (fits'.knobs k) start
  have engineName := top .engineName rfl
  have dataDir := top .dataDir rfl
  have minInterval := top .minInterval rfl
  have summaryEvery := top .summaryEvery rfl
  have unavailable := inner .unavailable rfl
  have input := inner .input rfl
  have table : ∃ fs, Setting.under (environment.inside markersKey)
      (Setting.under (file.inside markersKey) (markerSettings .default)) = .table fs := by
    obtain ⟨fs, eq⟩ := Setting.under_table (file.inside markersKey) (markerSettings .default).fields
    rw [show markerSettings .default = .table (markerSettings .default).fields from rfl, eq]
    exact Setting.under_table _ fs
  have markers : wanted (Setting.under environment (Setting.under file (settings {}))).fields
      markersKey MarkerSet.default markersOf? = some (combined file environment).markers := by
    unfold wanted
    rw [markers_under (settings {}) fits.markers fits'.markers rfl]
    exact markersOf?_table table unavailable input
  simp only [Knob.layer, Knob.name, Knob.missing, Knob.want] at engineName dataDir
  simp only [Knob.layer, Knob.name, Knob.missing, Knob.want] at minInterval summaryEvery
  simp only [ofSettings?, engineName, dataDir, minInterval, summaryEvery, markers]
  rfl

theorem validate_ok_iff (c : EngineConfig) : c.validate = .ok () ↔
    Text.isBlank c.engineName = false ∧ ∃ m ∈ c.markers.unavailable, Text.isBlank m = false := by
  unfold validate
  split
  · rename_i blank
    simp [blank]
  · rename_i named
    split
    · rename_i none
      simp only [reduceCtorEq, false_iff, not_and, not_exists]
      intro _ m member
      rw [List.all_eq_true.mp none m member]
      exact Bool.noConfusion
    · rename_i some
      simp_all

theorem load_eq {h : Host} {path : Option Text} (layers : Layered h path file environment) :
    load h path = (combined file environment).validate.map fun _ => combined file environment := by
  obtain ⟨⟨fs, reads, rfl⟩, rfl, fits, fits'⟩ := layers
  have read := layers_read fits fits'
  rw [← Setting.laidOver_eq, ← Setting.laidOver_eq] at read
  cases path with
  | none =>
    rw [← Except.ok.inj reads] at read ⊢
    unfold load
    simp only [layered, read]
    cases (combined (layerOf []) (layerOf (ofVariables h.environment))).validate <;> rfl
  | some path =>
    have file : ofFile h path = .ok fs := reads
    unfold load
    simp only [file, layered, read]
    cases (combined (layerOf fs) (layerOf (ofVariables h.environment))).validate <;> rfl

theorem eq_combined {h : Host} {path : Option Text} (layers : Layered h path file environment)
    {c : EngineConfig} (loads : load h path = .ok c) : c = combined file environment := by
  rw [load_eq layers] at loads
  cases valid : (combined file environment).validate with
  | ok done =>
    rw [valid] at loads
    exact (Except.ok.inj loads).symm
  | error f =>
    rw [valid] at loads
    contradiction

theorem Knob.value_combined (k : Knob α) (file environment : Layer) :
    k.value (combined file environment) = k.chosen file environment := by
  cases k <;> rfl

end Layers

/-- Where a file and an environment fit, each key has the value in the environment, else the one in
the file, else its default, so what is given for one key changes no other; and they make a
configuration just if its name is not blank and some marker for what is not available is not. -/
theorem load_takes_latest {h : Host} {path : Option Text} {file environment : Layer}
    (layers : Layered h path file environment) :
    (∀ c, load h path = .ok c → ∀ {α : Type} (k : Knob α), k.value c = k.chosen file environment) ∧
    ((∃ c, load h path = .ok c) ↔
      Text.isBlank (Knob.engineName.chosen file environment) = false ∧
      ∃ m ∈ Knob.unavailable.chosen file environment, Text.isBlank m = false) ∧
    ∀ {h' : Host} {path' : Option Text} {file' environment' : Layer},
      Layered h' path' file' environment' → ∀ c c', load h path = .ok c → load h' path' = .ok c' →
      ∀ {α : Type} (k : Knob α), k.entries file = k.entries file' →
        k.entries environment = k.entries environment' → k.value c = k.value c' := by
  refine ⟨?_, ?_, ?_⟩
  · intro c loads α k
    rw [eq_combined layers loads, k.value_combined]
  · have sound := validate_ok_iff (combined file environment)
    rw [load_eq layers]
    constructor
    · rintro ⟨c, loads⟩
      apply sound.mp
      cases valid : (combined file environment).validate with
      | ok done => rfl
      | error f =>
        rw [valid] at loads
        contradiction
    · intro named
      rw [sound.mpr named]
      exact ⟨_, rfl⟩
  · intro h' path' file' environment' layers' c c' loads loads' α k sameFile sameEnvironment
    rw [eq_combined layers loads, eq_combined layers' loads', k.value_combined, k.value_combined]
    unfold Knob.chosen Knob.given?
    rw [sameFile, sameEnvironment]

def partlyGiven : Host where
  tree := { nodes := [([lit "c.toml"], .file (Utf8.encode
    (lit "engine_name = \"A\"\n[Markers]\nUnavailable = [\"full\"]")) 420 0)] }
  cwd := []
  environment :=
    [(lit "SEATCLAIM_ENGINE_NAME", lit "B"), (lit "SEATCLAIM_MARKERS__INPUT", lit "card,name")]

theorem partly_given_loaded : ∃ c, load partlyGiven (some (lit "/c.toml")) = .ok c ∧
    c.engineName = lit "B" ∧ c.summaryEvery = 10 ∧
    c.markers.unavailable = [lit "full"] ∧ c.markers.input = [lit "card", lit "name"] := by
  let file := layerOf ((fileOf partlyGiven (some (lit "/c.toml"))).toOption.getD [])
  let environment := layerOf (ofVariables partlyGiven.environment)
  have layers : Layered partlyGiven (some (lit "/c.toml")) file environment := by
    refine ⟨?_, rfl, ⟨?_, by decide +kernel⟩, ⟨?_, by decide +kernel⟩⟩
    · have read : (fileOf partlyGiven (some (lit "/c.toml"))).toOption.isSome = true := by
        decide +kernel
      cases eq : fileOf partlyGiven (some (lit "/c.toml")) with
      | ok fs => exact ⟨fs, rfl, by simp [file, eq, Except.toOption]⟩
      | error f =>
        rw [eq] at read
        contradiction
    · intro α k
      cases k <;> decide +kernel
    · intro α k
      cases k <;> decide +kernel
  obtain ⟨values, succeeds, _⟩ := load_takes_latest layers
  obtain ⟨c, loads⟩ := succeeds.mpr (by decide +kernel)
  refine ⟨c, loads, ?_, ?_, ?_, ?_⟩
  · exact (values c loads .engineName).trans (by decide +kernel)
  · exact (values c loads .summaryEvery).trans (by decide +kernel)
  · exact (values c loads .unavailable).trans (by decide +kernel)
  · exact (values c loads .input).trans (by decide +kernel)

end BookingRetry.EngineConfig
