import BookingRetry.Config.Engine
import BookingRetry.Json.Printer

/-!
The configuration in JSON: an object whose members may be missing, or an array of its fields in
order whose last ones may be missing. Members that are not known are passed over, and none may stand
twice.
-/
namespace BookingRetry.EngineConfig

open Json

def textsJson (ts : List Text) : Value := .array (ts.map .string)

def json (c : EngineConfig) : Value :=
  .object ((engineNameKey, .string c.engineName) ::
    (match c.dataDir with
      | some d => [(dataDirKey, .string d)]
      | none => []) ++
    [(minIntervalKey, .number (.whole c.minIntervalMs)),
     (summaryKey, .number (.whole c.summaryEvery)),
     (markersKey, .object [(unavailableKey, textsJson c.markers.unavailable),
       (inputKey, textsJson c.markers.input)])])

def readText? (o : Outline) : Option Text := o.text.toOption

def readOptionalText? : Outline → Option (Option Text)
  | .null => some none
  | o => (readText? o).map some

def readCount? : Outline → Option Nat
  | .number f =>
    match f.number? with
    | some (.whole n) => if 0 ≤ n then some n.toNat else none
    | _ => none
  | _ => none

def readItems? : List Outline → Option (List Text)
  | [] => some []
  | o :: os =>
    match readText? o, readItems? os with
    | some t, some ts => some (t :: ts)
    | _, _ => none

def readTexts? : Outline → Option (List Text)
  | .array items none => readItems? items
  | _ => none

def named? : List (Quoted × Outline) → Option (List (Text × Outline))
  | [] => some []
  | (key, o) :: ms =>
    match key.text, named? ms with
    | .ok key, some rest => some ((key, o) :: rest)
    | _, _ => none

/-- Whether every member but the known ones is JSON, and the known ones stand once. -/
def isSound (known : List Text) : List (Text × Outline) → Bool
  | [] => true
  | (key, o) :: ms =>
    (if known.contains key then ms.all fun m => m.1 ≠ key else o.skim.isNone) && isSound known ms

def member? {α : Type} (ms : List (Text × Outline)) (key : Text) (missing : α)
    (want : Outline → Option α) : Option α :=
  match ms.find? fun m => m.1 = key with
  | none => some missing
  | some m => want m.2

/-- The known fields by name, from an object or from an array of the fields in order. -/
def known? (keys : List Text) : Outline → Option (List (Text × Outline))
  | .object members none => (named? members).filter (isSound keys)
  | .array items none => if items.length ≤ keys.length then some (keys.zip items) else none
  | _ => none

def readMarkers? (o : Outline) : Option MarkerSet :=
  match known? [unavailableKey, inputKey] o with
  | none => none
  | some ms =>
    match member? ms unavailableKey MarkerSet.defaultUnavailable readTexts?,
      member? ms inputKey MarkerSet.defaultInput readTexts? with
    | some unavailable, some input => some ⟨unavailable, input⟩
    | _, _ => none

def readConfig? (o : Outline) : Option EngineConfig :=
  match known? [engineNameKey, dataDirKey, minIntervalKey, summaryKey, markersKey] o with
  | none => none
  | some ms =>
    match member? ms engineNameKey defaultEngineName readText?,
      member? ms dataDirKey none readOptionalText?,
      member? ms minIntervalKey 1000 readCount?,
      member? ms summaryKey 10 readCount?,
      member? ms markersKey MarkerSet.default readMarkers? with
    | some engineName, some dataDir, some minIntervalMs, some summaryEvery, some markers =>
      some { engineName, dataDir, minIntervalMs, summaryEvery, markers }
    | _, _, _, _, _ => none

def ofJson? (t : Text) : Option EngineConfig :=
  let d := Document.ofText t
  if d.trailing then none else readConfig? d.outline

end BookingRetry.EngineConfig
