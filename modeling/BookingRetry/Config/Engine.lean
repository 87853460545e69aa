import BookingRetry.Host
import BookingRetry.Config.Layer
import BookingRetry.Config.Toml.Document
import BookingRetry.Json.Reader
import BookingRetry.Run.Report

/-!
The configuration of the program. It is laid together from the defaults, a file and the environment,
each over the one before, key by key.
-/
namespace BookingRetry

open Config

structure EngineConfig where
  engineName : Text := defaultEngineName
  dataDir : Option Text := none
  minIntervalMs : Nat := 1000
  summaryEvery : Nat := 10
  markers : MarkerSet := .default
  deriving DecidableEq, Repr

inductive ConfigFault where
  | emptyName
  | noMarker
  | fileNotFound (path : Text)
  | unreadable
  deriving DecidableEq, Repr

def ConfigFault.reason : ConfigFault → Text
  | emptyName => lit "engine_name must not be empty"
  | noMarker => lit "markers.unavailable needs at least one marker"
  | fileNotFound path => lit "configuration file not found: " ++ path
  | unreadable => lit "configuration cannot be read"

namespace EngineConfig

def engineNameKey : Text := lit "engine_name"

def dataDirKey : Text := lit "data_dir"

def minIntervalKey : Text := lit "min_interval_ms"

def summaryKey : Text := lit "summary_every"

def markersKey : Text := lit "markers"

def unavailableKey : Text := lit "unavailable"

def inputKey : Text := lit "input"

def minInterval (c : EngineConfig) : Span := .ofMillis c.minIntervalMs

def logDir (c : EngineConfig) (h : Host) : Text :=
  match c.dataDir with
  | some d => d
  | none => Path.join h.scratch defaultEngineName

def validate (c : EngineConfig) : Except ConfigFault Unit :=
  if Text.isBlank c.engineName then .error .emptyName
  else if c.markers.unavailable.all Text.isBlank then .error .noMarker
  else .ok ()

def markerSettings (m : MarkerSet) : Setting :=
  .table [(unavailableKey, .list (m.unavailable.map .text)), (inputKey, .list (m.input.map .text))]

def settings (c : EngineConfig) : Setting :=
  .table ((engineNameKey, .text c.engineName) ::
    (match c.dataDir with
      | some d => [(dataDirKey, .text d)]
      | none => []) ++
    [(minIntervalKey, .whole c.minIntervalMs), (summaryKey, .whole c.summaryEvery),
     (markersKey, markerSettings c.markers)])

def wanted {α : Type} (fs : Fields) (key : Text) (missing : α) (want : Setting → Option α) :
    Option α :=
  match fs.get? key with
  | none => some missing
  | some s => want s

/-- Markers are a table, or a list of its fields in order. -/
def markersOf? : Setting → Option MarkerSet
  | .table fs =>
    match wanted fs unavailableKey MarkerSet.defaultUnavailable Setting.toTexts?,
      wanted fs inputKey MarkerSet.defaultInput Setting.toTexts? with
    | some unavailable, some input => some ⟨unavailable, input⟩
    | _, _ => none
  | .list items =>
    let at_ (i : Nat) (missing : List Text) : Option (List Text) :=
      match items[i]? with
      | none => some missing
      | some s => s.toTexts?
    match at_ 0 MarkerSet.defaultUnavailable, at_ 1 MarkerSet.defaultInput with
    | some unavailable, some input => some ⟨unavailable, input⟩
    | _, _ => none
  | _ => none

def optionalText? : Setting → Option (Option Text)
  | .nothing => some none
  | s => s.toText?.map some

def ofSettings? (s : Setting) : Option EngineConfig :=
  let fs := s.fields
  match wanted fs engineNameKey defaultEngineName Setting.toText?,
    wanted fs dataDirKey none optionalText?,
    wanted fs minIntervalKey 1000 Setting.toCount?,
    wanted fs summaryKey 10 Setting.toCount?,
    wanted fs markersKey MarkerSet.default markersOf? with
  | some engineName, some dataDir, some minIntervalMs, some summaryEvery, some markers =>
    some { engineName, dataDir, minIntervalMs, summaryEvery, markers }
  | _, _, _, _, _ => none

def variableOpening : Text := lit "seatclaim_"

def listKeys : List Text :=
  [markersKey ++ '.' :: unavailableKey, markersKey ++ '.' :: inputKey]

/-- The value of a variable for a key: a truth value, a number or a text, whichever fits first. -/
def valueOf (key t : Text) : Setting :=
  let word := Text.lowered t
  if word = Setting.trueWord then .flag true
  else if word = Setting.falseWord then .flag false
  else match Numeral.readSigned? t with
    | some n => .whole n
    | none =>
      match Number.Extended.read? t with
      | some x => .real x
      | none =>
        if listKeys.contains key then .list ((Text.pieces ',' t).map .text) else .text t

def ofVariable? (v : Text × Text) : Option (Text × Setting) :=
  (Text.after? variableOpening (Text.lowered v.1)).map fun rest =>
    let key := Text.replaced (lit "__") ['.'] rest
    (key, valueOf key v.2)

def ofVariables (vs : List (Text × Text)) : Fields := vs.filterMap ofVariable?

def fileExtension : Text := lit "toml"

def byteOrderMark : Bytes := [0xEF, 0xBB, 0xBF]

def withoutMark (bs : Bytes) : Bytes :=
  if bs.take 3 = byteOrderMark then bs.drop 3 else bs

/-- The file that a path means: itself, or the one whose name has the ending for settings. -/
def fileAt? (h : Host) (path : Text) : Option Bytes :=
  match h.read path with
  | .ok content => if Path.extension? path = some fileExtension then some content else none
  | .error _ => (h.read (path ++ '.' :: fileExtension)).toOption

def ofFile (h : Host) (path : Text) : Except ConfigFault Fields :=
  if h.pathExists path then
    match (fileAt? h path).bind fun bs => Toml.read? (Utf8.decodeLossy (withoutMark bs)) with
    | some fs => .ok fs
    | none => .error .unreadable
  else .error (.fileNotFound path)

/-- Lays the settings of a file and of the environment over the defaults. -/
def layered (file environment : Fields) : Setting :=
  Setting.laidOver environment (Setting.laidOver file (settings {}))

def load (h : Host) (path : Option Text) : Except ConfigFault EngineConfig :=
  let file : Except ConfigFault Fields := match path with
    | none => .ok []
    | some p => ofFile h p
  match file with
  | .error f => .error f
  | .ok file =>
    match ofSettings? (layered file (ofVariables h.environment)) with
    | none => .error .unreadable
    | some c =>
      match c.validate with
      | .ok () => .ok c
      | .error f => .error f

def standardPaths (h : Host) : List Text :=
  [lit "./seatclaim.toml",
   Path.join (Path.join h.configHome (lit "seatclaim")) (lit "config.toml"),
   Path.join h.home (lit ".seatclaim.toml")]

def find? (h : Host) : Option Text := (standardPaths h).find? h.pathExists

def loadFrom (h : Host) (explicit : Option Text) : Except ConfigFault EngineConfig :=
  load h (explicit.orElse fun _ => find? h)

end EngineConfig

end BookingRetry
