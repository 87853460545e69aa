import BookingRetry.Proofs.Config.Guessing
import BookingRetry.Proofs.Config.Precedence
import BookingRetry.Proofs.Config.Toml

/-!
Texts given by the environment and by a file. What a file spells is taken as it is; what the
environment has is taken as it is if it spells no other kind of value, or spells it as the program
writes it. A list in the environment is a list only if it spells nothing else.
-/
namespace BookingRetry.EngineConfig

open Config

inductive TextKey where
  | engineName
  | dataDir

namespace TextKey

def name : TextKey → Text
  | engineName => engineNameKey
  | dataDir => dataDirKey

def variableName : TextKey → Text
  | engineName => lit "SEATCLAIM_ENGINE_NAME"
  | dataDir => lit "SEATCLAIM_DATA_DIR"

/-- The defaults but for this key. -/
def config (k : TextKey) (t : Text) : EngineConfig :=
  match k with
  | engineName => { engineName := t }
  | dataDir => { dataDir := some t }

end TextKey

/-- The only variable of the program that the environment has. -/
def SetsOnly (h : Host) (name value : Text) : Prop :=
  ∃ front back, h.environment = front ++ (name, value) :: back ∧
    ∀ other ∈ front ++ back, Text.after? variableOpening (Text.lowered other.1) = none

def SetsNothing (h : Host) : Prop :=
  ∀ other ∈ h.environment, Text.after? variableOpening (Text.lowered other.1) = none

/-- The path leads to a file of settings with this text. -/
structure Names (h : Host) (path document : Text) : Prop where
  read : h.read path = .ok (Utf8.encode document)
  ending : Path.extension? path = some fileExtension

def inputVariable : Text := lit "SEATCLAIM_MARKERS__INPUT"

def inputPath : Text := markersKey ++ '.' :: inputKey

def inputConfig (markers : List Text) : EngineConfig where
  markers := { unavailable := MarkerSet.defaultUnavailable, input := markers }

section Setting

variable {h : Host} {v : Text} {s : Setting}

theorem ofVariables_none {vs : List (Text × Text)}
    (none : ∀ other ∈ vs, Text.after? variableOpening (Text.lowered other.1) = none) :
    ofVariables vs = [] := by
  refine List.filterMap_eq_nil_iff.mpr ?_
  intro other member
  rw [ofVariable?, none other member]
  rfl

theorem ofVariables_only {name key : Text} (sets : SetsOnly h name v)
    (own : ofVariable? (name, v) = some (key, s)) : ofVariables h.environment = [(key, s)] := by
  obtain ⟨front, back, eq, others⟩ := sets
  have before := ofVariables_none fun other member => others other (List.mem_append_left _ member)
  have behind := ofVariables_none fun other member => others other (List.mem_append_right _ member)
  unfold ofVariables at before behind ⊢
  rw [eq, List.filterMap_append, List.filterMap_cons, own, before, behind]
  rfl

theorem textKey_variable (k : TextKey) (v : Text) :
    ofVariable? (k.variableName, v) = some (k.name, valueOf k.name v) := by
  have rest : Text.after? variableOpening (Text.lowered k.variableName) = some k.name ∧
      Text.replaced (lit "__") ['.'] k.name = k.name := by
    cases k <;> decide +kernel
  rw [ofVariable?, rest.1, Option.map_some, rest.2]

theorem input_variable (v : Text) :
    ofVariable? (inputVariable, v) = some (inputPath, valueOf inputPath v) := by
  have rest :
      Text.after? variableOpening (Text.lowered inputVariable) = some (lit "markers__input") ∧
      Text.replaced (lit "__") ['.'] (lit "markers__input") = inputPath := by
    decide +kernel
  rw [ofVariable?, rest.1, Option.map_some, rest.2]

/-! ### One text -/

theorem layerOf_text (k : TextKey) (s : Setting) : layerOf [(k.name, s)] = [(⟨k.name, []⟩, s)] := by
  have key : Key.ofText k.name = ⟨k.name, []⟩ := by cases k <;> decide +kernel
  rw [layerOf, List.map_singleton, key]

theorem entries_nil (name : Text) : Layer.entries name [] = [] := rfl

theorem inside_nil (name : Text) : Layer.inside name [] = [] := rfl

theorem entries_one (name : Text) (key : Key) (s : Setting) :
    Layer.entries name [(key, s)] =
      if Text.lowered key.name = name then [(key.steps, s)] else [] := by
  rw [Setting.entries_cons]
  rfl

theorem entries_text (k : TextKey) (s : Setting) :
    (∀ name, Layer.entries name [(⟨k.name, []⟩, s)] = if k.name = name then [([], s)] else []) ∧
      Layer.inside markersKey [(⟨k.name, []⟩, s)] = [] := by
  have own : Text.lowered k.name = k.name ∧ k.name ≠ markersKey := by cases k <;> decide +kernel
  have entries : ∀ name, Layer.entries name [(⟨k.name, []⟩, s)] =
      if k.name = name then [([], s)] else [] := by
    intro name
    rw [entries_one, own.1]
  refine ⟨entries, ?_⟩
  rw [Layer.inside, entries, if_neg own.2]
  rfl

theorem optionalText?_told {t : Text} (told : s.toText? = some t) :
    optionalText? s = some (some t) := by
  cases s with
  | nothing => contradiction
  | _ => exact congrArg (Option.map some) told

theorem fits_text (k : TextKey) {t : Text} (told : s.toText? = some t) :
    Fits [(⟨k.name, []⟩, s)] := by
  obtain ⟨entries, inside⟩ := entries_text k s
  constructor
  · intro α j
    cases k <;> cases j <;> simp +decide [Knob.fits, Knob.entries, Knob.layer, entries, inside,
      entries_nil, Knob.want, told, optionalText?_told told]
  · rw [Layer.keepsTable, entries]
    cases k <;> rfl

theorem combined_text (k : TextKey) {t : Text} (told : s.toText? = some t) :
    combined [] [(⟨k.name, []⟩, s)] = k.config t ∧
      combined [(⟨k.name, []⟩, s)] [] = k.config t := by
  obtain ⟨entries, inside⟩ := entries_text k s
  cases k <;> constructor <;> simp +decide [combined, Knob.chosen, Knob.given?, Knob.entries,
    Knob.layer, entries, inside, entries_nil, inside_nil, Knob.want, told, optionalText?_told told,
    TextKey.config, Knob.missing]

theorem config_sound (k : TextKey) {t : Text} (visible : Text.isBlank t = false) :
    (k.config t).validate = .ok () := by
  rw [validate_ok_iff]
  have named : Text.isBlank defaultEngineName = false := by decide
  have marked : ∃ m ∈ MarkerSet.default.unavailable, Text.isBlank m = false := by decide
  cases k with
  | engineName => exact ⟨visible, marked⟩
  | dataDir => exact ⟨named, marked⟩

theorem load_of_combined {path : Option Text} {file environment : Layer} (k : TextKey) {t : Text}
    (layers : Layered h path file environment) (eq : combined file environment = k.config t)
    (visible : Text.isBlank t = false) : load h path = .ok (k.config t) := by
  rw [load_eq layers, eq, config_sound k visible]
  rfl

theorem fits_nothing : Fits [] := by
  constructor
  · intro α j
    cases j <;> rfl
  · rfl

theorem toText?_valueOf (k : TextKey) (v : Text) :
    (valueOf k.name v).toText? = some (guessedText v) := by
  have single : listKeys.contains k.name = false := by cases k <;> decide
  rw [valueOf_eq, single, guessedText]
  cases guessed : guess? v with
  | none => rfl
  | some s =>
    rcases guess?_cases guessed with ⟨b, rfl⟩ | ⟨n, rfl⟩ | ⟨x, rfl⟩ <;> rfl

theorem load_variable (k : TextKey) (visible : Text.isBlank v = false)
    (sets : SetsOnly h k.variableName v) : load h none = .ok (k.config (guessedText v)) := by
  have told := toText?_valueOf k v
  refine load_of_combined k ⟨⟨[], rfl, rfl⟩, ?_, fits_nothing, fits_text k told⟩
    (combined_text k told).1 (guessedText_visible visible)
  rw [ofVariables_only sets (textKey_variable k v), layerOf_text]

/-! ### A text in a file -/

theorem unmarked_line (k : TextKey) (q : Text) :
    withoutMark (Utf8.encode (Toml.lineOf k.name q)) = Utf8.encode (Toml.lineOf k.name q) := by
  unfold withoutMark
  rw [if_neg]
  intro mark
  have first := congrArg List.head? mark
  rw [List.head?_take] at first
  have start : ∃ b, (Utf8.encode (Toml.lineOf k.name q)).head? = some b ∧ b ≠ 0xEF := by
    cases k with
    | engineName => exact ⟨101, rfl, by decide⟩
    | dataDir => exact ⟨100, rfl, by decide⟩
  obtain ⟨b, opens, other⟩ := start
  rw [opens] at first
  exact other (Option.some.inj first)

theorem bare_name (k : TextKey) : Toml.Bare k.name := by
  cases k <;> exact ⟨by decide, by decide⟩

theorem fileOf_line (k : TextKey) {path q : Text} (names : Names h path (Toml.lineOf k.name q))
    (spells : Toml.text? q = some (v, [])) :
    fileOf h (some path) = .ok [(k.name, .text v)] := by
  obtain ⟨read, ending⟩ := names
  have there : h.pathExists path = true := by
    unfold Host.read Tree.read at read
    unfold Host.pathExists
    cases found : h.tree.lookup h.cwd path with
    | ok place => rfl
    | error f =>
      rw [found] at read
      contradiction
  have content : fileAt? h path = some (Utf8.encode (Toml.lineOf k.name q)) := by
    rw [fileAt?, read]
    simp only [ending, if_true]
  show ofFile h path = _
  rw [ofFile, if_pos there, content, Option.bind_some, unmarked_line, Utf8.decodeLossy_encode,
    Toml.read?_line (bare_name k) spells]

theorem load_line (k : TextKey) (visible : Text.isBlank v = false) {path q : Text}
    (names : Names h path (Toml.lineOf k.name q)) (spells : Toml.text? q = some (v, []))
    (sets : SetsNothing h) : load h (some path) = .ok (k.config v) := by
  refine load_of_combined k ⟨⟨_, fileOf_line k names spells, (layerOf_text k _).symm⟩, ?_,
    fits_text k rfl, fits_nothing⟩ (combined_text k rfl).2 visible
  rw [ofVariables_none sets]
  rfl

/-! ### A list in the environment -/

theorem layerOf_input (s : Setting) :
    layerOf [(inputPath, s)] = [(⟨markersKey, [.field inputKey]⟩, s)] := by
  have key : Key.ofText inputPath = ⟨markersKey, [.field inputKey]⟩ := by decide +kernel
  rw [layerOf, List.map_singleton, key]

theorem input_lowered :
    Text.lowered markersKey = markersKey ∧ Text.lowered inputKey = inputKey := by
  decide +kernel

theorem entries_input (s : Setting) :
    (∀ name, Layer.entries name [(⟨markersKey, [.field inputKey]⟩, s)] =
      if markersKey = name then [([.field inputKey], s)] else []) ∧
    Layer.inside markersKey [(⟨markersKey, [.field inputKey]⟩, s)] = [(⟨inputKey, []⟩, s)] ∧
      ∀ name, Layer.entries name [(⟨inputKey, []⟩, s)] =
        if inputKey = name then [([], s)] else [] := by
  have lower := input_lowered
  have entries : ∀ name, Layer.entries name [(⟨markersKey, [.field inputKey]⟩, s)] =
      if markersKey = name then [([.field inputKey], s)] else [] := by
    intro name
    rw [entries_one, lower.1]
  refine ⟨entries, ?_, ?_⟩
  · rw [Layer.inside, entries, if_pos rfl]
    rfl
  · intro name
    rw [entries_one, lower.2]

theorem fits_input {ts : List Text} (read : s.toTexts? = some ts) :
    Fits [(⟨markersKey, [.field inputKey]⟩, s)] := by
  obtain ⟨entries, inside, inner⟩ := entries_input s
  constructor
  · intro α j
    cases j <;> simp +decide [Knob.fits, Knob.entries, Knob.layer, entries, inside, inner,
      Knob.want, read]
  · rw [Layer.keepsTable, entries, if_pos rfl]
    rfl

theorem combined_input {ts : List Text} (read : s.toTexts? = some ts) :
    combined [] [(⟨markersKey, [.field inputKey]⟩, s)] = inputConfig ts := by
  obtain ⟨entries, inside, inner⟩ := entries_input s
  simp +decide [combined, Knob.chosen, Knob.given?, Knob.entries, Knob.layer, entries, inside,
    inner, entries_nil, inside_nil, Knob.want, read, Knob.missing, inputConfig]

theorem ofSettings?_unread {root : Setting}
    (unread : wanted root.fields markersKey MarkerSet.default markersOf? = none) :
    ofSettings? root = none := by
  unfold ofSettings?
  simp only [unread]
  split
  · contradiction
  · rfl

theorem layered_unread (plain : ∀ fs, s ≠ .table fs) (unread : s.toTexts? = none) :
    ofSettings? (layered [] [(inputPath, s)]) = none := by
  have lower := input_lowered
  apply ofSettings?_unread
  rw [layered, Setting.laidOver_eq, layerOf_input]
  show wanted (Setting.laidAt ⟨markersKey, [.field inputKey]⟩ s (settings {})).fields markersKey
    MarkerSet.default markersOf? = none
  rw [Setting.laidAt_field, Setting.laidAt_whole, Setting.laid_plain plain, lower.1, lower.2,
    wanted, Setting.fields, Fields.get?_put_same]
  simp only [markersOf?, wanted, Fields.get?_put_same, unread]
  split
  · contradiction
  · rfl

theorem toTexts?_pieces (ps : List Text) : (Setting.list (ps.map .text)).toTexts? = some ps := by
  show Setting.textsOf? _ = _
  induction ps with
  | nil => rfl
  | cons p ps ih =>
    rw [List.map_cons, Setting.textsOf?, ih]
    rfl

theorem load_input (sets : SetsOnly h inputVariable v) :
    (OnlyText v → load h none = .ok (inputConfig (Text.pieces ',' v))) ∧
    (¬ OnlyText v → load h none = .error .unreadable) := by
  have only := ofVariables_only sets (input_variable v)
  have value := valueOf_eq inputPath v
  have listed : listKeys.contains inputPath = true := by decide
  rw [listed, if_pos rfl] at value
  constructor
  · intro text
    rw [guess?_eq_none_iff.mpr text, Option.getD_none] at value
    have read := toTexts?_pieces (Text.pieces ',' v)
    rw [← value] at read
    have layers : Layered h none [] [(⟨markersKey, [.field inputKey]⟩, valueOf inputPath v)] := by
      refine ⟨⟨[], rfl, rfl⟩, ?_, fits_nothing, fits_input read⟩
      rw [only, layerOf_input]
    have valid : (inputConfig (Text.pieces ',' v)).validate = .ok () := by
      rw [validate_ok_iff]
      exact ⟨(by decide : Text.isBlank defaultEngineName = false),
        (by decide : ∃ m ∈ MarkerSet.defaultUnavailable, Text.isBlank m = false)⟩
    rw [load_eq layers, combined_input read, valid]
    rfl
  · intro other
    cases guessed : guess? v with
    | none => exact absurd (guess?_eq_none_iff.mp guessed) other
    | some s =>
      rw [guessed, Option.getD_some] at value
      have unread : (∀ fs, s ≠ .table fs) ∧ s.toTexts? = none := by
        rcases guess?_cases guessed with ⟨b, rfl⟩ | ⟨n, rfl⟩ | ⟨x, rfl⟩ <;> exact ⟨nofun, rfl⟩
      unfold load
      simp only [only, value, layered_unread unread.1 unread.2]

end Setting

/-- A text that is not blank is loaded from a file as it is, however it is spelled there, and from
the environment as it is told again, which is the same just if it spells no other value or spells it
as the program does; and as a list it is cut at its commas just if it spells no other value. A text
with a comma, or with another character that no other value has, spells none. -/
theorem texts_loaded {v : Text} (visible : Text.isBlank v = false) :
    (∃ q, Toml.text? q = some (v, [])) ∧
    (∀ (k : TextKey) {h : Host} {path q : Text}, SetsNothing h →
      Names h path (Toml.lineOf k.name q) → Toml.text? q = some (v, []) →
      load h (some path) = .ok (k.config v)) ∧
    (∀ (k : TextKey) {h : Host}, SetsOnly h k.variableName v →
      load h none = .ok (k.config (guessedText v)) ∧
      (load h none = .ok (k.config v) ↔ AsWritten v)) ∧
    (∀ {h : Host}, SetsOnly h inputVariable v →
      (OnlyText v → load h none = .ok (inputConfig (Text.pieces ',' v))) ∧
      (¬ OnlyText v → load h none = .error .unreadable)) ∧
    (OnlyText v → AsWritten v) ∧
    ∀ c ∈ v, c = ',' ∨ OutsideLiterals c → OnlyText v := by
  have some : v ≠ [] := by
    rintro rfl
    contradiction
  refine ⟨⟨Toml.quoted v, Toml.text?_quoted some⟩, ?_, ?_, fun sets => load_input sets, ?_, ?_⟩
  · intro k h path q none names spells
    exact load_line k visible names spells none
  · intro k h sets
    have told := load_variable k visible sets
    refine ⟨told, ?_⟩
    rw [told, ← guessedText_eq_iff]
    cases k <;> simp [TextKey.config]
  · intro text
    rw [← guessedText_eq_iff, guessedText, guess?_eq_none_iff.mpr text]
    rfl
  · rintro c member (rfl | outside)
    · exact foreign_comma.onlyText member
    · exact outside.onlyText member

def variableHost (name value : Text) : Host where
  tree := {}
  cwd := []
  environment := [(name, value)]

theorem setsOnly_variableHost (name value : Text) : SetsOnly (variableHost name value) name value :=
  ⟨[], [], rfl, nofun⟩

theorem comma_text_loaded :
    Text.isBlank (lit "a,007") = false ∧
    load (variableHost (lit "SEATCLAIM_DATA_DIR") (lit "a,007")) none =
      .ok { dataDir := some (lit "a,007") } ∧
    load (variableHost inputVariable (lit "a,007")) none =
      .ok (inputConfig [lit "a", lit "007"]) := by
  have visible : Text.isBlank (lit "a,007") = false := by decide
  obtain ⟨_, _, told, listed, written, outside⟩ := texts_loaded visible
  have text := outside ',' (by decide) (Or.inl rfl)
  refine ⟨visible, ?_, ?_⟩
  · exact (told .dataDir (setsOnly_variableHost _ _)).2.mpr (written text)
  · exact (listed (setsOnly_variableHost _ _)).1 text

theorem digits_taken_for_number :
    load (variableHost (lit "SEATCLAIM_ENGINE_NAME") (lit "007")) none =
      .ok { engineName := lit "7" } ∧
    load (variableHost inputVariable (lit "404")) none = .error .unreadable := by
  decide +kernel

end BookingRetry.EngineConfig
