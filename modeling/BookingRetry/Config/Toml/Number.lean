import BookingRetry.Config.Setting
import BookingRetry.Config.Toml.Text

/-!
Numbers, dates and times of a TOML document. Digits may be parted by single underscores. A number
without point and exponent has to fit sixty-four bits; a date or time is kept as its text.
-/
namespace BookingRetry.Config.Toml

def parted? (isDigit : Char → Bool) : Text → Option (Text × Text)
  | [] => none
  | c :: cs =>
    if isDigit c then
      match cs with
      | '_' :: rest => (parted? isDigit rest).map fun r => (c :: r.1, r.2)
      | d :: rest =>
        if isDigit d then (parted? isDigit (d :: rest)).map fun r => (c :: r.1, r.2)
        else some ([c], cs)
      | [] => some ([c], [])
    else none

def maxWhole : Int := (Nat.pow 2 63 : Nat) - 1

def minWhole : Int := -(Nat.pow 2 63 : Nat)

def whole? (n : Int) : Option Setting :=
  if minWhole ≤ n ∧ n ≤ maxWhole then some (.whole n) else none

def based? (base : Nat) (t : Text) : Option (Setting × Text) :=
  let isDigit (c : Char) : Bool := match Numeral.hexValue? c with
    | some d => d < base
    | none => false
  match parted? isDigit t with
  | none => none
  | some (ds, rest) =>
    let n := ds.foldl (fun n c => n * base + (Numeral.hexValue? c).getD 0) 0
    (whole? n).map fun s => (s, rest)

def takeSign (t : Text) : Bool × Text := Number.Extended.takeSign t

def wholeDigits? (t : Text) : Option (Text × Text) :=
  match t with
  | '0' :: rest => some (['0'], rest)
  | _ => parted? Numeral.isDigit t

def exponent? (t : Text) : Option (Int × Text) :=
  let (negative, t) := takeSign t
  (parted? Numeral.isDigit t).map fun r =>
    (if negative then -(Numeral.value r.1 : Int) else Numeral.value r.1, r.2)

def real? (x : Number.Extended) : Option Setting :=
  match x with
  | .infinite false => none
  | x => some (.real x)

def decimal? (negative : Bool) (whole : Text) (t : Text) : Option (Setting × Text) :=
  let plain : Option (Setting × Text) :=
    let n : Int := Numeral.value whole
    (whole? (if negative then -n else n)).map fun s => (s, t)
  let withExponent (fraction : Text) (t : Text) : Option (Setting × Text) :=
    (exponent? t).bind fun e =>
      (real? (.ofParts negative whole fraction e.1)).map fun s => (s, e.2)
  match t with
  | '.' :: rest =>
    (parted? Numeral.isDigit rest).bind fun f =>
      match f.2 with
      | 'e' :: rest => withExponent f.1 rest
      | 'E' :: rest => withExponent f.1 rest
      | rest => (real? (.ofParts negative whole f.1 0)).map fun s => (s, rest)
  | 'e' :: rest => withExponent [] rest
  | 'E' :: rest => withExponent [] rest
  | _ => plain

def special? (negative : Bool) (t : Text) : Option (Setting × Text) :=
  match Text.after? (lit "inf") t, Text.after? (lit "nan") t with
  | some rest, _ => some (.real (.infinite negative), rest)
  | _, some rest => some (.real .notANumber, rest)
  | none, none => none

def number? (t : Text) : Option (Setting × Text) :=
  match t with
  | '0' :: 'x' :: rest => based? 16 rest
  | '0' :: 'o' :: rest => based? 8 rest
  | '0' :: 'b' :: rest => based? 2 rest
  | _ =>
    let (negative, t) := takeSign t
    match special? negative t with
    | some r => some r
    | none => (wholeDigits? t).bind fun r => decimal? negative r.1 r.2

def fixed? (count low high : Nat) (t : Text) : Option (Nat × Text) :=
  let ds := t.take count
  if ds.length = count && ds.all Numeral.isDigit then
    let n := Numeral.value ds
    if low ≤ n && n ≤ high then some (n, t.drop count) else none
  else none

def lastDay (year month : Nat) : Nat :=
  if month = 2 then
    (if year % 4 = 0 && (year % 100 ≠ 0 || year % 400 = 0) then 29 else 28)
  else if month = 4 ∨ month = 6 ∨ month = 9 ∨ month = 11 then 30
  else 31

def date? (t : Text) : Option (Text × Text) :=
  match fixed? 4 0 9999 t with
  | some (year, '-' :: t₁) =>
    match fixed? 2 1 12 t₁ with
    | some (month, '-' :: t₂) => (fixed? 2 1 (lastDay year month) t₂).map fun r => (t.take 10, r.2)
    | _ => none
  | _ => none

def fractionText (ds : Text) : Text :=
  let kept := ((ds.take 9).reverse.dropWhile fun c => c = '0').reverse
  if kept.isEmpty then [] else '.' :: kept

def time? (t : Text) : Option (Text × Text) :=
  match fixed? 2 0 23 t with
  | some (_, ':' :: t₁) =>
    match fixed? 2 0 59 t₁ with
    | some (_, ':' :: t₂) =>
      match fixed? 2 0 60 t₂ with
      | some (_, '.' :: rest) =>
        let ds := rest.takeWhile Numeral.isDigit
        if ds.isEmpty then none
        else some (t.take 8 ++ fractionText ds, rest.dropWhile Numeral.isDigit)
      | some (_, rest) => some (t.take 8, rest)
      | none => none
    | _ => none
  | _ => none

/-- Reads the distance from universal time, if there is one. No distance at all is written with a
plus sign. -/
def offset? (t : Text) : Option (Text × Text) :=
  let distance (sign : Char) (rest : Text) : Option (Text × Text) :=
    match fixed? 2 0 23 rest with
    | some (hours, ':' :: rest₁) =>
      (fixed? 2 0 59 rest₁).map fun r =>
        ((if hours = 0 ∧ r.1 = 0 then '+' else sign) :: rest.take 5, r.2)
    | _ => none
  match t with
  | 'Z' :: rest => some (['Z'], rest)
  | 'z' :: rest => some (['Z'], rest)
  | '+' :: rest => distance '+' rest
  | '-' :: rest => distance '-' rest
  | _ => some ([], t)

def startsMoment (t : Text) : Bool :=
  let ds := t.takeWhile Numeral.isDigit
  match t.dropWhile Numeral.isDigit with
  | '-' :: _ => ds.length = 4
  | ':' :: _ => ds.length = 2
  | _ => false

/-- Whether the time of a date follows. A blank before it counts only with two digits behind. -/
def afterDate? (t : Text) : Option Text :=
  match t with
  | 'T' :: rest => some rest
  | 't' :: rest => some rest
  | ' ' :: rest => if (fixed? 2 0 23 rest).isSome then some rest else none
  | _ => none

def moment? (t : Text) : Option (Setting × Text) :=
  match date? t with
  | none => (time? t).map fun r => (.text r.1, r.2)
  | some (date, rest) =>
    match afterDate? rest with
    | none => some (.text date, rest)
    | some clock =>
      (time? clock).bind fun r =>
        (offset? r.2).map fun o => (.text (date ++ 'T' :: r.1 ++ o.1), o.2)

end BookingRetry.Config.Toml
