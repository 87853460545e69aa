import BookingRetry.Number.Binary64
import BookingRetry.Text.Basic
import BookingRetry.Text.Numeral

/-!
JSON values. A number is either a whole number of sixty-four bits or a binary number; the members
of an object that was read are in strictly increasing order of their keys. As it is written, a whole
number that fits sixty-four bits is kept. Any other is read as a binary number: its leading digits
are collected as long as they fit sixty-four bits, the digits after them count only by their place,
and the collected number is then scaled by powers of ten, each step rounded. A number past the
largest binary one has no value.
-/
namespace BookingRetry

/-- The order of two texts by their code points, which is also that of their bytes in UTF-8. -/
def Text.order : Text → Text → Ordering
  | [], [] => .eq
  | [], _ :: _ => .lt
  | _ :: _, [] => .gt
  | a :: as, b :: bs => (compare a.toNat b.toNat).then (Text.order as bs)

namespace Json

inductive Number where
  | whole (n : Int)
  | binary (negative : Bool) (magnitude : Binary64)
  deriving DecidableEq, Repr

inductive Value where
  | null
  | bool (b : Bool)
  | number (n : Number)
  | string (t : Text)
  | array (items : List Value)
  | object (members : List (Text × Value))

abbrev Members := List (Text × Value)

def Members.put (key : Text) (value : Value) : Members → Members
  | [] => [(key, value)]
  | m :: ms =>
    match Text.order key m.1 with
    | .lt => (key, value) :: m :: ms
    | .eq => (key, value) :: ms
    | .gt => m :: Members.put key value ms

def Members.ordered (ms : Members) : Members := ms.foldl (fun acc m => acc.put m.1 m.2) []

end Json

end BookingRetry

namespace BookingRetry.Json

structure Figure where
  negative : Bool
  whole : Text
  fraction : Text
  exponent : Option (Bool × Text)
  pointed : Bool
  deriving DecidableEq, Repr

namespace Figure

def collectWhole (n : Nat) : Text → Nat × Nat
  | [] => (n, 0)
  | c :: cs =>
    let m := n * 10 + Numeral.digitValue c
    if m ≤ Numeral.maxWord then collectWhole m cs else (n, cs.length + 1)

def collectFraction (n : Nat) : Text → Nat × Nat
  | [] => (n, 0)
  | c :: cs =>
    let m := n * 10 + Numeral.digitValue c
    if m ≤ Numeral.maxWord then
      let r := collectFraction m cs
      (r.1, r.2 + 1)
    else (n, 0)

def maxExponent : Nat := Nat.pow 2 31 - 1

def maxPower : Nat := 308

def powerOfTen (n : Nat) : Binary64 := (Binary64.ofDecimal? 1 n).getD .zero

def scaledDown : Nat → Nat → Binary64 → Binary64
  | 0, _, x => x
  | room + 1, e, x =>
    if e ≤ maxPower then x.div (powerOfTen e)
    else if x.isZero then x
    else scaledDown room (e - maxPower) (x.div (powerOfTen maxPower))

def scaled? (digits : Nat) (e : Int) : Option Binary64 :=
  let x := Binary64.ofNat digits
  if e < 0 then some (scaledDown (e.natAbs / maxPower + 1) e.natAbs x)
  else if e.toNat ≤ maxPower then x.mul? (powerOfTen e.toNat)
  else if x.isZero then some x
  else none

def magnitude? (f : Figure) : Option Binary64 :=
  let w := collectWhole 0 f.whole
  let r := collectFraction w.1 f.fraction
  let digits := r.1
  let place : Int := (w.2 : Int) - r.2
  match f.exponent with
  | none => scaled? digits place
  | some (down, ds) =>
    let e := Numeral.value ds
    if e ≤ maxExponent then scaled? digits (if down then place - e else place + e)
    else if digits = 0 ∨ down then some .zero
    else none

def number? (f : Figure) : Option Number :=
  let n := Numeral.value f.whole
  let isWhole := !f.pointed && f.exponent.isNone
  if isWhole && !f.negative && n ≤ Numeral.maxWord then some (.whole n)
  else if isWhole && f.negative && n ≠ 0 && n ≤ Nat.pow 2 63 then some (.whole (-(n : Int)))
  else f.magnitude?.map (.binary f.negative)

end Figure

end BookingRetry.Json
