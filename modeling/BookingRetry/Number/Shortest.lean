import BookingRetry.Number.Binary64
import BookingRetry.Text.Numeral

/-!
The fewest decimal digits that read back to a binary value, and of those the nearest to it.
The reals that round to a value form an interval, whose ends belong to it if the mantissa is
even. The search tries the two neighbours of the value on ever finer decimal grids.
-/
namespace BookingRetry.Number

structure Decimal where
  digits : Nat
  exponent : Int
  deriving DecidableEq, Repr

inductive Tie where
  | toEven
  | up
  deriving DecidableEq, Repr

def compareScaled (a : Nat) (i : Int) (n : Nat) (j : Int) : Ordering :=
  compare (a * Nat.pow 10 i.toNat * Nat.pow 2 (-j).toNat)
    (n * Nat.pow 2 j.toNat * Nat.pow 10 (-i).toNat)

/-- Whether a decimal lies among the reals that round to the value. -/
def readsBack (x : Binary64) (d : Decimal) : Bool :=
  let narrow := x.mantissa = Nat.pow 2 52 ∧ -1074 < x.exponent
  let low := if narrow then 4 * x.mantissa - 1 else 4 * x.mantissa - 2
  let high := 4 * x.mantissa + 2
  let closed := x.mantissa % 2 = 0
  let atLow := compareScaled d.digits d.exponent low (x.exponent - 2)
  let atHigh := compareScaled d.digits d.exponent high (x.exponent - 2)
  (atLow = .gt ∨ (closed ∧ atLow = .eq)) ∧ (atHigh = .lt ∨ (closed ∧ atHigh = .eq))

def leadingZeros : Nat → Nat → Nat → Nat
  | 0, _, _ => 0
  | room + 1, num, den => if den ≤ num * 10 then 0 else leadingZeros room (num * 10) den + 1

def scale (x : Binary64) : Int :=
  if x.den ≤ x.num then (Numeral.digits (x.num / x.den)).length
  else -(leadingZeros 400 x.num x.den : Int)

/-- The neighbour of the value on the grid of step `10 ^ exponent` that reads back, the nearer
one if both do. -/
def onGrid? (tie : Tie) (x : Binary64) (exponent : Int) : Option Decimal :=
  let num := x.num * Nat.pow 10 (-exponent).toNat
  let den := x.den * Nat.pow 10 exponent.toNat
  let below : Decimal := ⟨num / den, exponent⟩
  let above : Decimal := ⟨num / den + 1, exponent⟩
  match readsBack x below, readsBack x above with
  | false, false => none
  | true, false => some below
  | false, true => some above
  | true, true =>
    let twice := 2 * (num % den)
    if twice < den then some below
    else if den < twice then some above
    else match tie with
      | .up => some above
      | .toEven => if below.digits % 2 = 0 then some below else some above

def stripped : Nat → Decimal → Decimal
  | 0, d => d
  | room + 1, d =>
    if d.digits ≠ 0 ∧ d.digits % 10 = 0 then stripped room ⟨d.digits / 10, d.exponent + 1⟩ else d

def shortest (tie : Tie) (x : Binary64) : Decimal :=
  if x.isZero then ⟨0, 0⟩
  else
    let k := scale x
    match (List.range 17).findSome? fun n : Nat => onGrid? tie x (k - ((n : Int) + 1)) with
    | some d => stripped 20 d
    | none => ⟨x.num * Nat.pow 5 (-x.exponent).toNat, min x.exponent 0⟩

def Decimal.leading (d : Decimal) : Int := d.exponent + (Numeral.digits d.digits).length - 1

/-- The whole part and the fraction of a decimal, without exponent; the fraction may be empty. -/
def Decimal.plain (d : Decimal) : Text × Text :=
  let ds := Numeral.written d.digits
  if 0 ≤ d.exponent then (ds ++ List.replicate d.exponent.toNat '0', [])
  else
    let places := (-d.exponent).toNat
    let ds := List.replicate (places + 1 - ds.length) '0' ++ ds
    (ds.take (ds.length - places), ds.drop (ds.length - places))

def onePlace (x : Binary64) : Text :=
  let tenths := roundedQuotient (x.num * 10) x.den
  Numeral.written (tenths / 10) ++ '.' :: Numeral.written (tenths % 10)

end BookingRetry.Number
