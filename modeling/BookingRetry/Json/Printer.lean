import BookingRetry.Json.Value
import BookingRetry.Number.Shortest

/-!
The compact text of a JSON value. Strings escape the quotation mark, the backslash and the control
characters below the blank. A binary number has the fewest digits that read back.
-/
namespace BookingRetry.Json

def shortEscapes : List (Char × Char) :=
  [('"', '"'), ('\\', '\\'), ('\x08', 'b'), ('\x09', 't'), ('\x0a', 'n'), ('\x0c', 'f'),
   ('\x0d', 'r')]

def writtenChar (c : Char) : Text :=
  match shortEscapes.find? fun e => e.1 = c with
  | some e => ['\\', e.2]
  | none =>
    if c.toNat < 0x20 then
      ['\\', 'u', '0', '0', Numeral.hexDigit (c.toNat / 16), Numeral.hexDigit (c.toNat % 16)]
    else [c]

def writtenString (t : Text) : Text := '"' :: t.flatMap writtenChar ++ ['"']

/-- Positional with at least one place after the point while the exponent of the first digit is
from -5 to 15, else digits with a signed exponent. -/
def writtenMagnitude (x : Binary64) : Text :=
  let d := Number.shortest .toEven x
  let e := d.leading
  if -5 ≤ e ∧ e ≤ 15 then
    let parts := d.plain
    parts.1 ++ '.' :: (if parts.2.isEmpty then ['0'] else parts.2)
  else
    let mantissa := match Numeral.written d.digits with
      | [] => []
      | [c] => [c]
      | c :: cs => c :: '.' :: cs
    mantissa ++ 'e' :: (if e < 0 then '-' else '+') :: Numeral.written e.natAbs

def Number.written : Number → Text
  | .whole n => Numeral.writtenInt n
  | .binary negative x => (if negative then ['-'] else []) ++ writtenMagnitude x

mutual

def Value.written : Value → Text
  | .null => lit "null"
  | .bool b => if b then lit "true" else lit "false"
  | .number n => n.written
  | .string t => writtenString t
  | .array items => '[' :: Text.joined [','] (writtenItems items) ++ [']']
  | .object members => '\x7b' :: Text.joined [','] (writtenMembers members) ++ ['\x7d']

def writtenItems : List Value → List Text
  | [] => []
  | v :: vs => v.written :: writtenItems vs

def writtenMembers : List (Text × Value) → List Text
  | [] => []
  | (key, v) :: ms => (writtenString key ++ ':' :: v.written) :: writtenMembers ms

end

end BookingRetry.Json
