import BookingRetry.Shell.State

/-!
From words to the texts that commands are given. Parameters, sums and outputs are put in; what did
not stand in quotes is then split at blanks.
-/
namespace BookingRetry.Shell

inductive Item where
  | sign (s : Sign) (splits : Bool)
  | edge
  | gap
  deriving DecidableEq, Repr

abbrev Expanding (α : Type) := Except Text α × State

def quotedItems (t : Text) : List Item := .edge :: t.map fun c => .sign ⟨c, true⟩ false

def valueItems (inQuotes : Bool) (t : Text) : List Item :=
  if inQuotes then quotedItems t else t.map fun c => .sign ⟨c, false⟩ true

def argumentItems (inQuotes : Bool) : List Text → List Item
  | [] => []
  | [t] => valueItems inQuotes t
  | t :: u :: ts => valueItems inQuotes t ++ .gap :: argumentItems inQuotes (u :: ts)

def isSplitting (c : Char) : Bool := c = ' ' || c = '\t' || c = '\n'

/-- The texts of some items: what has been gathered so far, backwards, and then the others. -/
def fieldsFrom (current : Option Text) : List Item → List Text
  | [] => (current.map List.reverse).toList
  | .edge :: is => fieldsFrom (some (current.getD [])) is
  | .gap :: is => (current.map List.reverse).toList ++ fieldsFrom none is
  | .sign s splits :: is =>
    if splits && isSplitting s.char then (current.map List.reverse).toList ++ fieldsFrom none is
    else fieldsFrom (some (s.char :: current.getD [])) is

def fieldsOf (is : List Item) : List Text := fieldsFrom none is

def signsOf (is : List Item) : List Sign :=
  is.filterMap fun i => match i with
    | .sign s _ => some s
    | .edge => none
    | .gap => some ⟨' ', true⟩

def textOf (is : List Item) : Text := (signsOf is).map Sign.char

def capturedText (bs : Bytes) : Text :=
  let t := (Utf8.decodeLossy bs).filter fun c => c ≠ '\x00'
  (t.reverse.dropWhile fun c => c = '\n').reverse

abbrev Capture := Text → State → Text × State

def items (capture : Capture) : Nat → Word → State → Expanding (List Item)
  | 0, _, s => (.ok [], s)
  | _ + 1, [], s => (.ok [], s)
  | room + 1, p :: ps, s =>
    let others (front : List Item) (s : State) : Expanding (List Item) :=
      match items capture room ps s with
      | (.ok is, s) => (.ok (front ++ is), s)
      | failed => failed
    let inner (t : Text) (inQuotes : Bool) (s : State) : Expanding (List Item) :=
      let pieces := if inQuotes then (doubleQuoted (t.length + 2) (t ++ ['"'])).map Prod.fst
        else (wordPieces (t.length + 1) (t.flatMap fun c =>
          if isMeta c then ['\\', c] else [c])).map Prod.fst
      match pieces with
      | none => (.error (lit "Bad substitution"), s)
      | some w => items capture room w s
    match p with
    | .plain t => others (t.map fun c => .sign ⟨c, false⟩ false) s
    | .quoted t => others (quotedItems t) s
    | .value name inQuotes =>
      if name = ['@'] || (name = ['*'] && !inQuotes) then
        others (argumentItems inQuotes s.arguments) s
      else match s.value? name with
        | some v => others (valueItems inQuotes v) s
        | none =>
          if s.needsValues then (.error (name ++ lit ": parameter not set"), s)
          else others (valueItems inQuotes []) s
    | .size name inQuotes =>
      let size := (Utf8.encode ((s.value? name).getD [])).length
      others (valueItems inQuotes (Numeral.written size)) s
    | .sum expression inQuotes =>
      match inner expression true s with
      | (.ok is, s) =>
        match evaluate (textOf is) s.store with
        | .ok (n, vs) =>
          others (valueItems inQuotes (Numeral.writtenInt n)) { s with store := vs }
        | .error f => (.error (f.message (textOf is)), s)
      | failed => failed
    | .output script inQuotes =>
      let r := capture script s
      others (valueItems inQuotes r.1) r.2
    | .modified name how emptyIsMissing word inQuotes =>
      let value := (s.value? name).filter fun v => !(emptyIsMissing && v.isEmpty)
      let standing (v : Text) (s : State) : Expanding (List Item) :=
        others (valueItems inQuotes v) s
      match how with
      | .instead =>
        match value with
        | some v => standing v s
        | none =>
          match inner word inQuotes s with
          | (.ok is, s) => others is s
          | failed => failed
      | .assigned =>
        match value with
        | some v => standing v s
        | none =>
          match inner word inQuotes s with
          | (.ok is, s) => standing (textOf is) (s.assign name (textOf is))
          | failed => failed
      | .other =>
        match value with
        | some _ =>
          match inner word inQuotes s with
          | (.ok is, s) => others is s
          | failed => failed
        | none => standing [] s
      | .demanded =>
        match value with
        | some v => standing v s
        | none =>
          match inner word inQuotes s with
          | (.ok is, s) =>
            let words := textOf is
            let words := if words.isEmpty then lit "parameter not set" else words
            (.error (name ++ lit ": " ++ words), s)
          | failed => failed
      | .withoutFront longest =>
        match inner word false s with
        | (.ok is, s) => standing (cutFront (patternOf (signsOf is)) longest (value.getD [])) s
        | failed => failed
      | .withoutBack longest =>
        match inner word false s with
        | (.ok is, s) => standing (cutBack (patternOf (signsOf is)) longest (value.getD [])) s
        | failed => failed

def wordRoom : Nat := 100000

def fields (capture : Capture) : List Word → State → Expanding (List Text)
  | [], s => (.ok [], s)
  | w :: ws, s =>
    match items capture wordRoom w s with
    | (.error e, s) => (.error e, s)
    | (.ok is, s) =>
      match fields capture ws s with
      | (.error e, s) => (.error e, s)
      | (.ok ts, s) => (.ok (fieldsOf is ++ ts), s)

def oneText (capture : Capture) (w : Word) (s : State) : Expanding Text :=
  match items capture wordRoom w s with
  | (.ok is, s) => (.ok (textOf is), s)
  | (.error e, s) => (.error e, s)

def onePattern (capture : Capture) (w : Word) (s : State) : Expanding (List Glob) :=
  match items capture wordRoom w s with
  | (.ok is, s) => (.ok (patternOf (signsOf is)), s)
  | (.error e, s) => (.error e, s)

end BookingRetry.Shell
