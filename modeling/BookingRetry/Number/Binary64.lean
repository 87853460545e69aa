/-!
Binary floating-point numbers of sixty-four bits, as exact values. Every operation is computed
exactly on ratios of whole numbers and rounded once, to the nearest value, a tie going to the
even neighbour; a result past the largest value is no number.
-/
namespace BookingRetry

/-- The non-negative value `mantissa * 2 ^ exponent`, where the mantissa is below `2 ^ 53` and the
exponent is the least one, but not below `-1074`. -/
structure Binary64 where
  mantissa : Nat
  exponent : Int
  deriving DecidableEq, Repr, Inhabited

def roundedQuotient (num den : Nat) : Nat :=
  let q := num / den
  let twice := 2 * (num % den)
  if twice < den then q
  else if den < twice then q + 1
  else if q % 2 = 0 then q else q + 1

namespace Binary64

def zero : Binary64 := ⟨0, -1074⟩

def num (x : Binary64) : Nat := x.mantissa * Nat.pow 2 x.exponent.toNat

def den (x : Binary64) : Nat := Nat.pow 2 (-x.exponent).toNat

/-- The exponent at which the mantissa of a positive ratio has fifty-three binary digits, or the
least exponent. -/
def exponentOf (num den : Nat) : Int :=
  let e : Int := (Nat.log2 num : Int) - Nat.log2 den - 53
  let q := num * Nat.pow 2 (-e).toNat / (den * Nat.pow 2 e.toNat)
  max (if Nat.pow 2 53 ≤ q then e + 1 else e) (-1074)

def ofRatio? (num den : Nat) : Option Binary64 :=
  if num = 0 then some zero
  else
    let e := exponentOf num den
    let m := roundedQuotient (num * Nat.pow 2 (-e).toNat) (den * Nat.pow 2 e.toNat)
    let x : Binary64 := if m = Nat.pow 2 53 then ⟨Nat.pow 2 52, e + 1⟩ else ⟨m, e⟩
    if x.exponent ≤ 971 then some x else none

def ofRatio (num den : Nat) : Binary64 := (ofRatio? num den).getD ⟨Nat.pow 2 53 - 1, 971⟩

def ofNat (n : Nat) : Binary64 := ofRatio n 1

def isZero (x : Binary64) : Bool := x.mantissa = 0

def add (x y : Binary64) : Binary64 := ofRatio (x.num * y.den + y.num * x.den) (x.den * y.den)

def mul? (x y : Binary64) : Option Binary64 := ofRatio? (x.num * y.num) (x.den * y.den)

def div (x y : Binary64) : Binary64 := ofRatio (x.num * y.den) (x.den * y.num)

def ofDecimal? (digits : Nat) (exponent : Int) : Option Binary64 :=
  ofRatio? (digits * Nat.pow 10 exponent.toNat) (Nat.pow 10 (-exponent).toNat)

def roundHalfUp (x : Binary64) : Nat := (2 * x.num + x.den) / (2 * x.den)

end Binary64

end BookingRetry
