import BookingRetry.Json.Value
import BookingRetry.Text.Utf8

/-!
A JSON text as it is written, up to its first fault. Reading goes as far as it can and leaves what
it found as a tree whose leaves show strings by their escapes and numbers by their digits; where the
text stops being JSON, the tree says so at that place. Who reads the tree in order meets the fault
when the reader of the text would have met it, and decides which escapes and numbers will do.
-/
namespace BookingRetry.Json

inductive Fault where
  | ended
  | malformed
  deriving DecidableEq, Repr

/-- A part of a written string: a character, or a unit of sixteen bits given by its number. -/
inductive Piece where
  | char (c : Char)
  | unit (n : Nat)
  deriving DecidableEq, Repr

structure Quoted where
  pieces : List Piece
  fault : Option Fault
  deriving DecidableEq, Repr

inductive Outline where
  | null
  | bool (b : Bool)
  | number (f : Figure)
  | cutNumber
  | string (q : Quoted)
  | array (items : List Outline) (fault : Option Fault)
  /-- The members, and the fault that follows them. -/
  | object (members : List (Quoted × Outline)) (fault : Option Fault)
  | broken (f : Fault)

namespace Outline

def isSpace (c : Char) : Bool := c = ' ' || c = '\t' || c = '\n' || c = '\r'

def skipSpace (t : Text) : Text := t.dropWhile isSpace

def simpleEscapes : List (Char × Char) :=
  [('"', '"'), ('\\', '\\'), ('/', '/'), ('b', '\x08'), ('f', '\x0c'), ('n', '\x0a'), ('r', '\x0d'),
   ('t', '\x09')]

def simpleEscape? (c : Char) : Option Char := (simpleEscapes.find? fun e => e.1 = c).map Prod.snd

def hexUnit? (a b c d : Char) : Option Nat :=
  match Numeral.hexValue? a, Numeral.hexValue? b, Numeral.hexValue? c, Numeral.hexValue? d with
  | some a, some b, some c, some d => some (((a * 16 + b) * 16 + c) * 16 + d)
  | _, _, _, _ => none

def hasFourBytes (t : Text) : Bool := 4 ≤ (Utf8.encode (t.take 4)).length

/-- What a reading yields, and the text after it; none once there has been a fault. -/
abbrev Reading (α : Type) := α × Option Text

def brokenString (f : Fault) : Reading Quoted := (⟨[], some f⟩, none)

def Piece.before (p : Piece) (r : Reading Quoted) : Reading Quoted :=
  ({ r.1 with pieces := p :: r.1.pieces }, r.2)

def readString : Text → Reading Quoted
  | [] => brokenString .ended
  | '"' :: rest => (⟨[], none⟩, some rest)
  | ['\\'] => brokenString .ended
  | '\\' :: 'u' :: rest =>
    if hasFourBytes rest then
      match rest with
      | a :: b :: c :: d :: rest =>
        match hexUnit? a b c d with
        | some n => Piece.before (.unit n) (readString rest)
        | none => brokenString .malformed
      | _ => brokenString .malformed
    else brokenString .ended
  | '\\' :: e :: rest =>
    match simpleEscape? e with
    | some c => Piece.before (.char c) (readString rest)
    | none => brokenString .malformed
  | c :: rest =>
    if c.toNat < 0x20 then brokenString .malformed else Piece.before (.char c) (readString rest)

def readWord (value : Outline) : Text → Text → Reading Outline
  | [], t => (value, some t)
  | _ :: _, [] => (.broken .ended, none)
  | w :: ws, c :: cs => if w = c then readWord value ws cs else (.broken .malformed, none)

def digitsOf (t : Text) : Text := t.takeWhile Numeral.isDigit

def afterDigits (t : Text) : Text := t.dropWhile Numeral.isDigit

def lacksDigit (t : Text) : Reading Outline :=
  if t.isEmpty then (.cutNumber, none) else (.broken .malformed, none)

def readExponent (f : Figure) : Text → Reading Outline
  | e :: rest =>
    if e = 'e' || e = 'E' then
      let (down, rest) := match rest with
        | '+' :: rest => (false, rest)
        | '-' :: rest => (true, rest)
        | _ => (false, rest)
      let ds := digitsOf rest
      if ds.isEmpty then lacksDigit rest
      else (.number { f with exponent := some (down, ds) }, some (afterDigits rest))
    else (.number f, some (e :: rest))
  | [] => (.number f, some [])

def readNumber (negative : Bool) (t : Text) : Reading Outline :=
  let ds := digitsOf t
  let rest := afterDigits t
  match ds with
  | [] => lacksDigit t
  | '0' :: _ :: _ => (.broken .malformed, none)
  | _ =>
    match rest with
    | '.' :: rest =>
      let fs := digitsOf rest
      if fs.isEmpty then lacksDigit rest
      else readExponent ⟨negative, ds, fs, none, true⟩ (afterDigits rest)
    | _ => readExponent ⟨negative, ds, [], none, false⟩ rest

def faultAt (t : Text) : Fault := if t.isEmpty then .ended else .malformed

mutual

def readValue : Nat → Text → Reading Outline
  | 0, _ => (.broken .ended, none)
  | room + 1, t =>
    match skipSpace t with
    | [] => (.broken .ended, none)
    | c :: rest =>
      if c = 'n' then readWord .null (lit "ull") rest
      else if c = 't' then readWord (.bool true) (lit "rue") rest
      else if c = 'f' then readWord (.bool false) (lit "alse") rest
      else if c = '"' then
        let r := readString rest
        (.string r.1, r.2)
      else if c = '-' then readNumber true rest
      else if Numeral.isDigit c then readNumber false (c :: rest)
      else if c = '[' then
        match skipSpace rest with
        | ']' :: rest => (.array [] none, some rest)
        | [] => (.array [] (some .ended), none)
        | rest =>
          let r := readItems room rest
          (.array r.1.1 r.1.2, r.2)
      else if c = '\x7b' then
        match skipSpace rest with
        | '\x7d' :: rest => (.object [] none, some rest)
        | '"' :: rest =>
          let r := readMembers room rest
          (.object r.1.1 r.1.2, r.2)
        | rest => (.object [] (some (faultAt rest)), none)
      else (.broken .malformed, none)

def readItems : Nat → Text → Reading (List Outline × Option Fault)
  | 0, _ => (([], some .ended), none)
  | room + 1, t =>
    let v := readValue room t
    match v.2 with
    | none => (([v.1], some .ended), none)
    | some rest =>
      match skipSpace rest with
      | ']' :: rest => (([v.1], none), some rest)
      | ',' :: rest =>
        match skipSpace rest with
        | ']' :: _ => (([v.1, .broken .malformed], some .malformed), none)
        | rest =>
          let r := readItems room rest
          ((v.1 :: r.1.1, r.1.2), r.2)
      | rest => (([v.1], some (faultAt rest)), none)

def readMembers : Nat → Text → Reading (List (Quoted × Outline) × Option Fault)
  | 0, _ => (([], some .ended), none)
  | room + 1, t =>
    let key := readString t
    match key.2 with
    | none => (([(key.1, .broken .ended)], some .ended), none)
    | some rest =>
      match skipSpace rest with
      | ':' :: rest =>
        let v := readValue room rest
        match v.2 with
        | none => (([(key.1, v.1)], some .ended), none)
        | some rest =>
          match skipSpace rest with
          | '\x7d' :: rest => (([(key.1, v.1)], none), some rest)
          | ',' :: rest =>
            match skipSpace rest with
            | '"' :: rest =>
              let r := readMembers room rest
              (((key.1, v.1) :: r.1.1, r.1.2), r.2)
            | rest => (([(key.1, v.1)], some (faultAt rest)), none)
          | rest => (([(key.1, v.1)], some (faultAt rest)), none)
      | rest => (([(key.1, .broken (faultAt rest))], some .ended), none)

end

end Outline

structure Document where
  outline : Outline
  trailing : Bool

/-- Every value and every list of items takes a character, so twice their number is room enough. -/
def Document.ofText (t : Text) : Document :=
  let r := Outline.readValue (2 * t.length + 2) t
  ⟨r.1, match r.2 with
    | none => false
    | some rest => !(Outline.skipSpace rest).isEmpty⟩

end BookingRetry.Json
