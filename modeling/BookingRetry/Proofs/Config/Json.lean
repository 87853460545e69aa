import BookingRetry.Config.Json
import BookingRetry.Proofs.Config.Precedence
import BookingRetry.Proofs.Json.Reading
import BookingRetry.Proofs.Json.Writing

/-!
The configuration in JSON is read as it was written. Where members are left out of it, or of its
markers, just those fields have their defaults; an empty list is not one that is left out.
-/
namespace BookingRetry.EngineConfig

open Json

section Readers

variable {α : Type} {want : Outline → Option α} {missing x : α} {key : Text}
  {ns : List (Text × Outline)} {ms : Members}

/-- The reader makes `x` of every outline that says the value. -/
def Makes (want : Outline → Option α) (v : Value) (x : α) : Prop :=
  ∀ o : Outline, o.said? = some v → want o = some x

def MakesIfAny (want : Outline → Option α) (missing : α) : Option Value → α → Prop
  | none, x => x = missing
  | some v, x => Makes want v x

/-! ### Fields -/

theorem makes_text (t : Text) : Makes readText? (.string t) t := by
  intro o said
  rw [readText?, (Outline.text_ok_iff said t).mpr rfl]
  rfl

theorem makes_optionalText (t : Text) : Makes readOptionalText? (.string t) (some t) := by
  intro o said
  have text := makes_text t o said
  unfold readOptionalText?
  split
  · contradiction
  · rw [text]
    rfl

theorem makes_count (n : Nat) : Makes readCount? (.number (.whole n)) n := by
  intro o said
  obtain ⟨f, rfl, number⟩ := Outline.number_of_said said
  simp [readCount?, number]

theorem readItems?_of_said {os : List Outline} {ts : List Text}
    (said : Outline.saidItems? os = some (ts.map .string)) : readItems? os = some ts := by
  induction ts generalizing os with
  | nil =>
    cases os with
    | nil => rfl
    | cons o os =>
      obtain ⟨v, us, other, _⟩ := Outline.saidItems?_cons said
      contradiction
  | cons t ts ih =>
    cases os with
    | nil => cases said
    | cons o os =>
      obtain ⟨v, us, same, first, rest⟩ := Outline.saidItems?_cons said
      cases same
      simp only [readItems?, makes_text t o first, ih rest]

theorem makes_texts (ts : List Text) : Makes readTexts? (textsJson ts) ts := by
  intro o said
  obtain ⟨os, rfl, inside⟩ := Outline.array_of_said said
  exact readItems?_of_said inside

/-! ### Members -/

structure SaysMember (n : Text × Outline) (m : Text × Value) : Prop where
  name : n.1 = m.1
  said : n.2.said? = some m.2

theorem named?_of_said {os : List (Quoted × Outline)} (said : Outline.saidMembers? os = some ms) :
    ∃ ns, named? os = some ns ∧ List.Forall₂ SaysMember ns ms := by
  induction os generalizing ms with
  | nil =>
    cases said
    exact ⟨[], rfl, .nil⟩
  | cons m os ih =>
    obtain ⟨q, o⟩ := m
    obtain ⟨key, v, rest, rfl, name, first, more⟩ := Outline.saidMembers?_cons said
    obtain ⟨ns, named, tells⟩ := ih more
    refine ⟨(key, o) :: ns, ?_, .cons ⟨rfl, first⟩ tells⟩
    simp only [named?, name, named]

theorem names_of_said_members (tells : List.Forall₂ SaysMember ns ms) :
    ns.map Prod.fst = ms.map Prod.fst := by
  induction tells with
  | nil => rfl
  | cons first _ ih => rw [List.map_cons, List.map_cons, first.name, ih]

theorem isSound_of_said_members (known : List Text) (tells : List.Forall₂ SaysMember ns ms)
    (once : (ms.map Prod.fst).Nodup) : isSound known ns = true := by
  induction tells with
  | nil => rfl
  | @cons n m ns ms first rest ih =>
    obtain ⟨fresh, later⟩ := List.nodup_cons.mp once
    have apart : (ns.all fun other => other.1 ≠ n.1) = true := by
      rw [List.all_eq_true]
      intro other member
      rw [← names_of_said_members rest] at fresh
      simp only [decide_eq_true_eq]
      intro same
      rw [← first.name, ← same] at fresh
      exact fresh (List.mem_map_of_mem member)
    unfold isSound
    rw [ih later, Outline.skim_of_said first.said, apart]
    split <;> rfl

theorem member?_of_said_members (tells : List.Forall₂ SaysMember ns ms)
    (makes : MakesIfAny want missing (ms.first? key) x) :
    member? ns key missing want = some x := by
  induction tells with
  | nil => exact congrArg some makes.symm
  | @cons n m ns ms first _ ih =>
    rw [Members.first?_cons] at makes
    unfold member?
    rw [List.find?_cons]
    by_cases same : m.1 = key
    · rw [if_pos same] at makes
      rw [decide_eq_true (first.name.trans same)]
      exact makes n.2 first.said
    · rw [if_neg same] at makes
      rw [decide_eq_false (first.name ▸ same)]
      exact ih makes

theorem known?_of_said {o : Outline} (keys : List Text) (said : o.said? = some (.object ms))
    (once : (ms.map Prod.fst).Nodup) :
    ∃ ns, known? keys o = some ns ∧ List.Forall₂ SaysMember ns ms := by
  obtain ⟨os, rfl, inside⟩ := Outline.object_of_said said
  obtain ⟨ns, named, tells⟩ := named?_of_said inside
  refine ⟨ns, ?_, tells⟩
  have sound := isSound_of_said_members keys tells once
  simp [known?, named, Option.filter, sound]

theorem makes_markers {m : MarkerSet} (once : (ms.map Prod.fst).Nodup)
    (unavailable : MakesIfAny readTexts? MarkerSet.defaultUnavailable (ms.first? unavailableKey)
      m.unavailable)
    (input : MakesIfAny readTexts? MarkerSet.defaultInput (ms.first? inputKey) m.input) :
    Makes readMarkers? (.object ms) m := by
  intro o said
  obtain ⟨ns, known, tells⟩ := known?_of_said [unavailableKey, inputKey] said once
  simp only [readMarkers?, known, member?_of_said_members tells unavailable,
    member?_of_said_members tells input]

theorem makes_config {c : EngineConfig} (once : (ms.map Prod.fst).Nodup)
    (engineName : MakesIfAny readText? defaultEngineName (ms.first? engineNameKey) c.engineName)
    (dataDir : MakesIfAny readOptionalText? none (ms.first? dataDirKey) c.dataDir)
    (minInterval : MakesIfAny readCount? 1000 (ms.first? minIntervalKey) c.minIntervalMs)
    (summary : MakesIfAny readCount? 10 (ms.first? summaryKey) c.summaryEvery)
    (markers : MakesIfAny readMarkers? MarkerSet.default (ms.first? markersKey) c.markers) :
    Makes readConfig? (.object ms) c := by
  intro o said
  obtain ⟨ns, known, tells⟩ :=
    known?_of_said [engineNameKey, dataDirKey, minIntervalKey, summaryKey, markersKey] said once
  simp only [readConfig?, known, member?_of_said_members tells engineName,
    member?_of_said_members tells dataDir, member?_of_said_members tells minInterval,
    member?_of_said_members tells summary, member?_of_said_members tells markers]

theorem ofJson?_isText {v : Value} {c : EngineConfig} {t : Text} (makes : Makes readConfig? v c)
    (text : IsText v t) : ofJson? t = some c := by
  obtain ⟨said, ends⟩ := ofText_isText text
  unfold ofJson?
  dsimp only
  rw [ends, if_neg Bool.false_ne_true]
  exact makes _ said

end Readers

/-! ### Leaving out members -/

/-- Names of members that are left out: of the configuration, and of its markers. -/
structure Omission where
  outer : Text → Bool
  inner : Text → Bool

namespace Omission

variable {α : Type} (o : Omission) (c : EngineConfig)

def kept (out : Text → Bool) (ms : Members) : Members := ms.filter fun m => !out m.1

def inside (key : Text) : Value → Value
  | .object ms => .object (if key = markersKey then kept o.inner ms else ms)
  | v => v

def applied : Value → Value
  | .object ms => .object ((kept o.outer ms).map fun m => (m.1, o.inside m.1 m.2))
  | v => v

def drops : Knob α → Bool
  | .unavailable => o.outer markersKey || o.inner unavailableKey
  | .input => o.outer markersKey || o.inner inputKey
  | k => o.outer k.name

/-- The field of a configuration that is left: the default, where it was left out. -/
def left (k : Knob α) : α := if o.drops k then k.value {} else k.value c

def remaining : EngineConfig where
  engineName := o.left c .engineName
  dataDir := o.left c .dataDir
  minIntervalMs := o.left c .minInterval
  summaryEvery := o.left c .summaryEvery
  markers := { unavailable := o.left c .unavailable, input := o.left c .input }

theorem value_remaining (k : Knob α) : k.value (o.remaining c) = o.left c k := by
  cases k <;> rfl

end Omission

def membersOf : Value → Members
  | .object ms => ms
  | _ => []

section Members

variable {α : Type} (o : Omission) (c : EngineConfig)

theorem applied_eq : o.applied c.json = .object (membersOf (o.applied c.json)) := rfl

theorem json_names_apart : ((membersOf c.json).map Prod.fst).Nodup := by
  obtain ⟨engineName, dataDir, minIntervalMs, summaryEvery, markers⟩ := c
  cases dataDir with
  | none =>
    show [engineNameKey, minIntervalKey, summaryKey, markersKey].Nodup
    decide
  | some d =>
    show [engineNameKey, dataDirKey, minIntervalKey, summaryKey, markersKey].Nodup
    decide

theorem kept_names_apart {ms : Members} (out : Text → Bool) (once : (ms.map Prod.fst).Nodup) :
    ((Omission.kept out ms).map Prod.fst).Nodup :=
  once.sublist (List.filter_sublist.map Prod.fst)

theorem applied_names_apart : ((membersOf (o.applied c.json)).map Prod.fst).Nodup := by
  show (((Omission.kept o.outer (membersOf c.json)).map _).map Prod.fst).Nodup
  rw [List.map_map]
  exact kept_names_apart o.outer (json_names_apart c)

theorem first?_kept (out : Text → Bool) (key : Text) (ms : Members) :
    (Omission.kept out ms).first? key = if out key then none else ms.first? key := by
  unfold Omission.kept
  rw [Members.first?_filter fun name => !out name]
  cases out key <;> rfl

theorem first?_applied (key : Text) : (membersOf (o.applied c.json)).first? key =
    if o.outer key then none else ((membersOf c.json).first? key).map (o.inside key) := by
  show Members.first? key ((Omission.kept o.outer (membersOf c.json)).map _) = _
  rw [Members.first?_map, first?_kept]
  split <;> rfl

def markerMembers (m : MarkerSet) : Members :=
  [(unavailableKey, textsJson m.unavailable), (inputKey, textsJson m.input)]

theorem first?_json : (membersOf c.json).first? engineNameKey = some (.string c.engineName) ∧
    (membersOf c.json).first? dataDirKey = c.dataDir.map .string ∧
    (membersOf c.json).first? minIntervalKey = some (.number (.whole c.minIntervalMs)) ∧
    (membersOf c.json).first? summaryKey = some (.number (.whole c.summaryEvery)) ∧
    (membersOf c.json).first? markersKey = some (.object (markerMembers c.markers)) := by
  obtain ⟨engineName, dataDir, minIntervalMs, summaryEvery, markers⟩ := c
  cases dataDir <;> exact ⟨rfl, rfl, rfl, rfl, rfl⟩

/-! ### What is left is read -/

theorem MakesIfAny.without {want : Outline → Option α} {missing x : α} {v : Option Value}
    (makes : MakesIfAny want missing v x) (out : Bool) :
    MakesIfAny want missing (if out then none else v) (if out then missing else x) := by
  cases out with
  | false => exact makes
  | true => rfl

theorem Makes.without {want : Outline → Option α} {missing x : α} {v : Value}
    (makes : Makes want v x) (out : Bool) :
    MakesIfAny want missing (if out then none else some v) (if out then missing else x) :=
  MakesIfAny.without (show MakesIfAny want missing (some v) x from makes) out

theorem makes_keptMarkers (present : o.outer markersKey = false) :
    Makes readMarkers? (.object (Omission.kept o.inner (markerMembers c.markers)))
      (o.remaining c).markers := by
  have same : (o.remaining c).markers =
      { unavailable :=
          if o.inner unavailableKey then MarkerSet.defaultUnavailable else c.markers.unavailable
        input := if o.inner inputKey then MarkerSet.defaultInput else c.markers.input } := by
    simp only [Omission.remaining, Omission.left, Omission.drops, present, Bool.false_or]
    rfl
  have apart : ((markerMembers c.markers).map Prod.fst).Nodup :=
    show [unavailableKey, inputKey].Nodup by decide
  rw [same]
  refine makes_markers (kept_names_apart o.inner apart) ?unavailable ?input
  case unavailable =>
    rw [first?_kept]
    exact (makes_texts _).without _
  case input =>
    rw [first?_kept]
    exact (makes_texts _).without _

theorem makes_applied : Makes readConfig? (o.applied c.json) (o.remaining c) := by
  obtain ⟨engineName, dataDir, minInterval, summary, markers⟩ := first?_json c
  rw [applied_eq]
  refine makes_config (applied_names_apart o c) ?engineName ?dataDir ?minInterval ?summary ?markers
  case engineName =>
    rw [first?_applied, engineName]
    exact (makes_text _).without _
  case dataDir =>
    rw [first?_applied, dataDir]
    have named : MakesIfAny readOptionalText? none
        ((c.dataDir.map .string).map (o.inside dataDirKey)) c.dataDir := by
      cases c.dataDir with
      | none => rfl
      | some d => exact makes_optionalText d
    exact named.without _
  case minInterval =>
    rw [first?_applied, minInterval]
    exact (makes_count _).without _
  case summary =>
    rw [first?_applied, summary]
    exact (makes_count _).without _
  case markers =>
    rw [first?_applied, markers]
    cases out : o.outer markersKey with
    | false => exact makes_keptMarkers o c out
    | true =>
      simp only [Omission.remaining, Omission.left, Omission.drops, out, Bool.true_or]
      rfl

/-! ### Writing -/

structure CountsFit : Prop where
  minInterval : c.minIntervalMs ≤ Numeral.maxWord
  summary : c.summaryEvery ≤ Numeral.maxWord

theorem whole_count {n : Nat} (fits : n ≤ Numeral.maxWord) :
    (Value.number (.whole n)).Whole :=
  ⟨by omega, by exact_mod_cast fits⟩

theorem whole_texts (ts : List Text) : (textsJson ts).Each Value.Whole := by
  refine ⟨trivial, ?_⟩
  induction ts with
  | nil => trivial
  | cons t ts ih => exact ⟨trivial, ih⟩

theorem whole_json (fits : c.CountsFit) : c.json.Each Value.Whole := by
  obtain ⟨engineName, dataDir, minIntervalMs, summaryEvery, markers⟩ := c
  have counts := whole_count fits.minInterval
  have counts' := whole_count fits.summary
  have lists : (Value.object (markerMembers markers)).Each Value.Whole :=
    ⟨trivial, whole_texts _, whole_texts _, trivial⟩
  cases dataDir with
  | none => exact ⟨trivial, trivial, counts, counts', lists, trivial⟩
  | some d => exact ⟨trivial, trivial, trivial, counts, counts', lists, trivial⟩

theorem whole_kept {ms : Members} (out : Text → Bool) (whole : ∀ m ∈ ms, m.2.Each Value.Whole) :
    ∀ m ∈ Omission.kept out ms, m.2.Each Value.Whole := by
  intro m member
  exact whole m (List.mem_filter.mp member).1

theorem whole_inside (key : Text) {v : Value} (whole : v.Each Value.Whole) :
    (o.inside key v).Each Value.Whole := by
  cases v with
  | object ms =>
    have each := Value.eachMember_iff.mp whole.2
    refine ⟨trivial, Value.eachMember_iff.mpr ?_⟩
    split
    · exact whole_kept o.inner each
    · exact each
  | null | bool | number | string | array => exact whole

theorem whole_applied (fits : c.CountsFit) : (o.applied c.json).Each Value.Whole := by
  have each := Value.eachMember_iff.mp (whole_json c fits).2
  refine ⟨trivial, Value.eachMember_iff.mpr ?_⟩
  intro m member
  obtain ⟨n, left, rfl⟩ := List.mem_map.mp member
  exact whole_inside o n.1 (whole_kept o.outer each n left)

end Members

def Omission.nothing : Omission := ⟨fun _ => false, fun _ => false⟩

theorem applied_nothing (c : EngineConfig) : Omission.nothing.applied c.json = c.json := by
  obtain ⟨engineName, dataDir, minIntervalMs, summaryEvery, markers⟩ := c
  cases dataDir <;> rfl

/-- A configuration is read back from its JSON, and with any members left out of that, just the
fields that went with them have their defaults. -/
theorem json_read_back {c : EngineConfig} (fits : c.CountsFit) :
    ofJson? c.json.written = some c ∧
      ∀ o : Omission, ∃ d, ofJson? (o.applied c.json).written = some d ∧
        ∀ {α : Type} (k : Knob α), k.value d = if o.drops k then k.value {} else k.value c := by
  have reads : ∀ o : Omission, ofJson? (o.applied c.json).written = some (o.remaining c) := by
    intro o
    exact ofJson?_isText (makes_applied o c) (written_isText (whole_applied o c fits))
  constructor
  · have whole := reads .nothing
    rwa [applied_nothing] at whole
  · intro o
    exact ⟨o.remaining c, reads o, o.value_remaining c⟩

def unusual : EngineConfig where
  engineName := lit "\"KTX\"\n"
  minIntervalMs := 18446744073709551615
  summaryEvery := 0
  markers := { unavailable := [], input := [lit "\\", []] }

theorem unusual_read_back : unusual.CountsFit ∧ ofJson? unusual.json.written = some unusual ∧
    ∀ o : Omission, ∃ d, ofJson? (o.applied unusual.json).written = some d ∧
      ∀ {α : Type} (k : Knob α), k.value d = if o.drops k then k.value {} else k.value unusual :=
  ⟨⟨by decide, by decide⟩, json_read_back ⟨by decide, by decide⟩⟩

end BookingRetry.EngineConfig
