import BookingRetry.Number.Shortest

/-!
Binary numbers with a sign, the two infinities, and the value that is no number. They are read from
decimal digits, rounded once, and written without exponent in the fewest digits that read back.
-/
namespace BookingRetry.Number

inductive Extended where
  | finite (negative : Bool) (magnitude : Binary64)
  | infinite (negative : Bool)
  | notANumber
  deriving DecidableEq, Repr

namespace Extended

def tooLarge : Int := 310

def tooSmall : Int := -340

def ofDigits (negative : Bool) (digits : Text) (exponent : Int) : Extended :=
  let ds := digits.dropWhile fun c => c = '0'
  let leading : Int := exponent + ds.length
  if ds.isEmpty then .finite negative .zero
  else if tooLarge < leading then .infinite negative
  else if leading < tooSmall then .finite negative .zero
  else match Binary64.ofDecimal? (Numeral.value ds) exponent with
    | some x => .finite negative x
    | none => .infinite negative

def ofParts (negative : Bool) (whole fraction : Text) (exponent : Int) : Extended :=
  ofDigits negative (whole ++ fraction) (exponent - fraction.length)

def signed (negative : Bool) (t : Text) : Text := if negative then '-' :: t else t

def infinity : Text := lit "inf"

def written : Extended → Text
  | finite negative x =>
    let parts := (shortest .up x).plain
    signed negative (parts.1 ++ if parts.2.isEmpty then [] else '.' :: parts.2)
  | infinite negative => signed negative infinity
  | notANumber => lit "NaN"

def toWord : Extended → Nat
  | finite true _ => 0
  | finite false x => min x.roundHalfUp Numeral.maxWord
  | infinite true => 0
  | infinite false => Numeral.maxWord
  | notANumber => 0

def takeSign (t : Text) : Bool × Text :=
  match t with
  | '+' :: rest => (false, rest)
  | '-' :: rest => (true, rest)
  | _ => (false, t)

def readExponent? (t : Text) : Option Int :=
  let (negative, ds) := takeSign t
  (Numeral.readDigits? ds).map fun n => if negative then -(n : Int) else n

/-- Reads a number: a sign, digits with or without a point, and an exponent, all but one digit
optional; or one of the words for infinity and for no number. -/
def read? (t : Text) : Option Extended :=
  let (negative, body) := takeSign t
  let word := body.map Char.toLower
  if word = infinity || word = lit "infinity" then some (.infinite negative)
  else if word = lit "nan" then some .notANumber
  else
    let whole := body.takeWhile Numeral.isDigit
    let rest := body.dropWhile Numeral.isDigit
    let (fraction, rest) := match rest with
      | '.' :: rest => (rest.takeWhile Numeral.isDigit, rest.dropWhile Numeral.isDigit)
      | _ => ([], rest)
    if whole.isEmpty && fraction.isEmpty then none
    else match rest with
      | [] => some (ofParts negative whole fraction 0)
      | e :: rest =>
        if e = 'e' || e = 'E' then (readExponent? rest).map (ofParts negative whole fraction ·)
        else none

end Extended

end BookingRetry.Number
