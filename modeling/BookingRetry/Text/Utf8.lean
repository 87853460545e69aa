import BookingRetry.Text.Basic

/-!
Texts as bytes in UTF-8. Reading is either strict, and then refuses any text with a malformed
byte, or lossy: each longest initial part of a character that breaks off, and each byte that can
start none, is read as the replacement character.
-/
namespace BookingRetry.Utf8

def encodeChar (c : Char) : Bytes :=
  let n := c.toNat
  if n < 0x80 then [n.toUInt8]
  else if n < 0x800 then [(0xC0 + n / 0x40).toUInt8, (0x80 + n % 0x40).toUInt8]
  else if n < 0x10000 then
    [(0xE0 + n / 0x1000).toUInt8, (0x80 + n / 0x40 % 0x40).toUInt8, (0x80 + n % 0x40).toUInt8]
  else
    [(0xF0 + n / 0x40000).toUInt8, (0x80 + n / 0x1000 % 0x40).toUInt8,
     (0x80 + n / 0x40 % 0x40).toUInt8, (0x80 + n % 0x40).toUInt8]

def encode (t : Text) : Bytes := t.flatMap encodeChar

/-- What is still owed to a character that has started: its bits so far, how many bytes are to
come, and the range of the next one. -/
structure Partial where
  bits : Nat
  owed : Nat
  low : UInt8
  high : UInt8
  deriving DecidableEq, Repr

/-- What a first byte starts; the range of the second byte keeps out overlong forms, surrogates
and code points past the last one. -/
def start? (b : UInt8) : Option Partial :=
  let n := b.toNat
  if 0xC2 ≤ n ∧ n ≤ 0xDF then some ⟨n - 0xC0, 1, 0x80, 0xBF⟩
  else if n = 0xE0 then some ⟨0, 2, 0xA0, 0xBF⟩
  else if 0xE1 ≤ n ∧ n ≤ 0xEF then some ⟨n - 0xE0, 2, 0x80, if n = 0xED then 0x9F else 0xBF⟩
  else if n = 0xF0 then some ⟨0, 3, 0x90, 0xBF⟩
  else if 0xF1 ≤ n ∧ n ≤ 0xF3 then some ⟨n - 0xF0, 3, 0x80, 0xBF⟩
  else if n = 0xF4 then some ⟨4, 3, 0x80, 0x8F⟩
  else none

/-- One reading step: the characters it yields (`none` for a malformed part) and the part of a
character that is still open. A byte that does not continue the open part is read afresh. -/
def fresh (b : UInt8) : List (Option Char) × Option Partial :=
  if b.toNat < 0x80 then ([some (Char.ofNat b.toNat)], none)
  else match start? b with
    | some p => ([], some p)
    | none => ([none], none)

def feed (openPart : Option Partial) (b : UInt8) : List (Option Char) × Option Partial :=
  match openPart with
  | none => fresh b
  | some p =>
    if p.low ≤ b ∧ b ≤ p.high then
      let bits := p.bits * 0x40 + (b.toNat - 0x80)
      if p.owed = 1 then ([some (Char.ofNat bits)], none)
      else ([], some ⟨bits, p.owed - 1, 0x80, 0xBF⟩)
    else
      let again := fresh b
      (none :: again.1, again.2)

def charsFrom (openPart : Option Partial) : Bytes → List (Option Char)
  | [] => if openPart.isSome then [none] else []
  | b :: bs =>
    let r := feed openPart b
    r.1 ++ charsFrom r.2 bs

def chars (bs : Bytes) : List (Option Char) := charsFrom none bs

def replacement : Char := '\uFFFD'

def decodeLossy (bs : Bytes) : Text := (chars bs).map fun c => c.getD replacement

def decode? (bs : Bytes) : Option Text :=
  let cs := chars bs
  if cs.all Option.isSome then some (cs.map fun c => c.getD replacement) else none

end BookingRetry.Utf8
