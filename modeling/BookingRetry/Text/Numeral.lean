import BookingRetry.Text.Basic

/-!
Whole numbers in decimal digits. Written without leading zeros; read with an optional plus sign,
ASCII digits only, and an upper bound.
-/
namespace BookingRetry.Numeral

def digitChar (d : Nat) : Char := Char.ofNat (48 + d)

def digitsReversed (n : Nat) : List Nat :=
  if n < 10 then [n] else n % 10 :: digitsReversed (n / 10)
termination_by n
decreasing_by omega

def digits (n : Nat) : List Nat := (digitsReversed n).reverse

def written (n : Nat) : Text := (digits n).map digitChar

def writtenInt (i : Int) : Text := if i < 0 then '-' :: written i.natAbs else written i.natAbs

def padded (width n : Nat) : Text :=
  let t := written n
  List.replicate (width - t.length) '0' ++ t

def isDigit (c : Char) : Bool := '0' ≤ c && c ≤ '9'

def digitValue (c : Char) : Nat := c.toNat - 48

def valueFrom (acc : Nat) (ds : Text) : Nat := ds.foldl (fun n c => n * 10 + digitValue c) acc

def value (ds : Text) : Nat := valueFrom 0 ds

def readDigits? (t : Text) : Option Nat :=
  if !t.isEmpty && t.all isDigit then some (value t) else none

def maxWord : Nat := Nat.pow 2 64 - 1

def readWord? (t : Text) : Option Nat :=
  let body := match t with
    | '+' :: rest => rest
    | _ => t
  (readDigits? body).filter (· ≤ maxWord)

def readSigned? (t : Text) : Option Int :=
  let (negative, body) := match t with
    | '+' :: rest => (false, rest)
    | '-' :: rest => (true, rest)
    | _ => (false, t)
  match readDigits? body with
  | none => none
  | some n =>
    if negative then (if n ≤ Nat.pow 2 63 then some (-(n : Int)) else none)
    else if n < Nat.pow 2 63 then some n else none

def hexValue? (c : Char) : Option Nat :=
  if isDigit c then some (digitValue c)
  else if 'a' ≤ c && c ≤ 'f' then some (c.toNat - 87)
  else if 'A' ≤ c && c ≤ 'F' then some (c.toNat - 55)
  else none

def hexDigit (d : Nat) : Char := if d < 10 then digitChar d else Char.ofNat (87 + d)

end BookingRetry.Numeral
