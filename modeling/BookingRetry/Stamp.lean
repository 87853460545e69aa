import BookingRetry.Text.Numeral

/-!
Calendar stamps: a day of the proleptic Gregorian calendar and a second of that day, in the
written form `YYYY-MM-DD HH:MM:SS`. A second may be the sixtieth, a leap second. Years outside
`0000` to `9999` carry a sign. A text is read as a stamp only if it is that stamp's written form.
-/
namespace BookingRetry

def isLeapYear (year : Int) : Bool := year % 4 = 0 && (year % 100 ≠ 0 || year % 400 = 0)

def daysInMonth (year : Int) (month : Nat) : Nat :=
  if month = 2 then (if isLeapYear year then 29 else 28)
  else if month = 4 ∨ month = 6 ∨ month = 9 ∨ month = 11 then 30
  else 31

structure StampFields where
  year : Int
  month : Nat
  day : Nat
  hour : Nat
  minute : Nat
  second : Nat
  deriving DecidableEq, Repr

def StampFields.Valid (f : StampFields) : Prop :=
  (-262143 ≤ f.year ∧ f.year ≤ 262142) ∧ (1 ≤ f.month ∧ f.month ≤ 12) ∧
    (1 ≤ f.day ∧ f.day ≤ daysInMonth f.year f.month) ∧
    f.hour < 24 ∧ f.minute < 60 ∧ f.second ≤ 60

instance (f : StampFields) : Decidable f.Valid := by
  unfold StampFields.Valid; infer_instance

structure Stamp extends StampFields where
  valid : toStampFields.Valid
  deriving DecidableEq

namespace Stamp

def epoch : Stamp := ⟨⟨1970, 1, 1, 0, 0, 0⟩, by decide⟩

instance : Inhabited Stamp := ⟨epoch⟩

/-- The fields of the second that comes so many seconds after the first one of 1970. Days are counted
from the first of March of the year nought, in cycles of four hundred years that begin with that
month. -/
def fieldsOfSeconds (n : Int) : StampFields :=
  let days := n / 86400 + 719468
  let second := (n % 86400).toNat
  let cycle := days / 146097
  let d := (days % 146097).toNat
  let y := (d - d / 1460 + d / 36524 - d / 146096) / 365
  let dayOfYear := d - (365 * y + y / 4 - y / 100)
  let m := (5 * dayOfYear + 2) / 153
  let month := if m < 10 then m + 3 else m - 9
  { year := (y : Int) + cycle * 400 + (if month ≤ 2 then 1 else 0)
    month
    day := dayOfYear - (153 * m + 2) / 5 + 1
    hour := second / 3600
    minute := second / 60 % 60
    second := second % 60 }

/-- The stamp of that second; the first one of 1970 if the calendar does not reach so far. -/
def ofSeconds (n : Int) : Stamp :=
  let f := fieldsOfSeconds n
  if h : f.Valid then ⟨f, h⟩ else epoch

def writtenYear (year : Int) : Text :=
  if year < 0 then '-' :: Numeral.padded 4 year.natAbs
  else if year ≤ 9999 then Numeral.padded 4 year.natAbs
  else '+' :: Numeral.padded 4 year.natAbs

def written (s : Stamp) : Text :=
  writtenYear s.year ++ '-' :: Numeral.padded 2 s.month ++ '-' :: Numeral.padded 2 s.day ++
    ' ' :: Numeral.padded 2 s.hour ++ ':' :: Numeral.padded 2 s.minute ++
    ':' :: Numeral.padded 2 s.second

def compact (s : Stamp) : Text :=
  writtenYear s.year ++ Numeral.padded 2 s.month ++ Numeral.padded 2 s.day ++
    '_' :: Numeral.padded 2 s.hour ++ Numeral.padded 2 s.minute ++ Numeral.padded 2 s.second

def takeDigits (t : Text) : Text × Text :=
  (t.takeWhile Numeral.isDigit, t.dropWhile Numeral.isDigit)

def takeSign : Text → Bool × Text
  | '-' :: rest => (true, rest)
  | '+' :: rest => (false, rest)
  | t => (false, t)

def takeField? (mark : Char) : Text → Option (Nat × Text)
  | c :: a :: b :: rest =>
    if c = mark then (Numeral.readDigits? [a, b]).map fun n => (n, rest) else none
  | _ => none

def fields? (t : Text) : Option StampFields := do
  let sign := takeSign t
  let front := takeDigits sign.2
  let year ← Numeral.readDigits? front.1
  let (month, t) ← takeField? '-' front.2
  let (day, t) ← takeField? '-' t
  let (hour, t) ← takeField? ' ' t
  let (minute, t) ← takeField? ':' t
  let (second, t) ← takeField? ':' t
  if t.isEmpty then
    some ⟨if sign.1 then -(year : Int) else year, month, day, hour, minute, second⟩
  else none

def read? (t : Text) : Option Stamp :=
  match fields? t with
  | none => none
  | some f =>
    if h : f.Valid then
      let s : Stamp := ⟨f, h⟩
      if s.written = t then some s else none
    else none

end Stamp

end BookingRetry
