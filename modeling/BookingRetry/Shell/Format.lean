import BookingRetry.Shell.Sum
import BookingRetry.Text.Utf8

/-!
What `echo` and `printf` write. A format is gone through again as long as arguments are left; an
argument that is missing counts as empty or as nought.
-/
namespace BookingRetry.Shell

structure Escaped where
  bytes : Bytes
  ends : Bool := false
  deriving DecidableEq, Repr

def octalValue? (c : Char) : Option Nat :=
  if '0' ≤ c && c ≤ '7' then some (Numeral.digitValue c) else none

def octal : Nat → Nat → Text → Nat × Text
  | 0, n, t => (n, t)
  | _ + 1, n, [] => (n, [])
  | room + 1, n, c :: cs =>
    match octalValue? c with
    | some d => octal room (n * 8 + d) cs
    | none => (n, c :: cs)

def letterEscape? (c : Char) : Option UInt8 :=
  if c = '\\' then some 92
  else if c = 'a' then some 7
  else if c = 'b' then some 8
  else if c = 'f' then some 12
  else if c = 'n' then some 10
  else if c = 'r' then some 13
  else if c = 't' then some 9
  else if c = 'v' then some 11
  else none

/-- A text whose escapes are carried out: bytes by a nought and octal digits, and `\c` for nothing
more. -/
def escaped : Nat → Text → Escaped
  | 0, _ => ⟨[], false⟩
  | _ + 1, [] => ⟨[], false⟩
  | room + 1, c :: t =>
    let before (bs : Bytes) (e : Escaped) : Escaped := ⟨bs ++ e.bytes, e.ends⟩
    if c = '\\' then
      match t with
      | [] => ⟨[92], false⟩
      | d :: rest =>
        if d = 'c' then ⟨[], true⟩
        else if d = '0' then
          let r := octal 3 0 rest
          before [r.1.toUInt8] (escaped room r.2)
        else match letterEscape? d with
          | some b => before [b] (escaped room rest)
          | none => before [92] (escaped room t)
    else before (Utf8.encodeChar c) (escaped room t)

def escapedText (t : Text) : Escaped := escaped (t.length + 1) t

def echoed (words : List Text) : Bytes :=
  let (words, newline) := match words with
    | w :: rest => if w = lit "-n" then (rest, false) else (w :: rest, true)
    | [] => ([], true)
  let e := escapedText (Text.joined [' '] words)
  if e.ends || !newline then e.bytes else e.bytes ++ [10]

structure Layout where
  toLeft : Bool := false
  zeros : Bool := false
  plus : Bool := false
  blank : Bool := false
  marked : Bool := false
  width : Nat := 0
  precision : Option Nat := none
  deriving DecidableEq, Repr

structure Printed where
  bytes : Bytes := []
  arguments : List Text
  complaints : List Text := []
  ends : Bool := false

def Layout.pad (l : Layout) (isNumber : Bool) (sign body : Bytes) : Bytes :=
  let fill := l.width - (sign.length + body.length)
  if l.toLeft then sign ++ body ++ List.replicate fill 32
  else if l.zeros && isNumber && l.precision = none then sign ++ List.replicate fill 48 ++ body
  else List.replicate fill 32 ++ sign ++ body

def basedDigits (base : Nat) (upper : Bool) (n : Nat) : Text :=
  (Nat.toDigits base n).map fun c => if upper then c.toUpper else c

def argumentNumber (a : Text) : Int × Option Text :=
  match a with
  | [] => (0, none)
  | q :: c :: _ =>
    if q = '\'' || q = '"' then (c.toNat, none)
    else whole a
  | _ => whole a
where
  whole (a : Text) : Int × Option Text :=
    let t := skipBlanks a
    let (negative, body) := match t with
      | '-' :: ds => (true, ds)
      | '+' :: ds => (false, ds)
      | ds => (false, ds)
    let digits := match body with
      | '0' :: x :: ds =>
        if x = 'x' || x = 'X' then '0' :: x :: ds.takeWhile fun c => (Numeral.hexValue? c).isSome
        else body.takeWhile fun c => (octalValue? c).isSome
      | _ => body.takeWhile Numeral.isDigit
    match readNumber? digits with
    | none => (0, some (a ++ lit ": expected numeric value"))
    | some n =>
      let n := if negative then -n else n
      if digits.length = body.length then (n, none)
      else (n, some (a ++ lit ": not completely converted"))

def Layout.number (l : Layout) (conversion : Char) (n : Int) : Bytes :=
  let digits (t : Text) : Bytes :=
    let t := match l.precision with
      | some p => List.replicate (p - t.length) '0' ++ t
      | none => t
    Utf8.encode t
  if conversion = 'd' || conversion = 'i' then
    let sign : Bytes :=
      if n < 0 then [45] else if l.plus then [43] else if l.blank then [32] else []
    l.pad true sign (digits (Numeral.written n.natAbs))
  else
    let m := bits n
    if conversion = 'o' then
      l.pad true [] (digits ((if l.marked then ['0'] else []) ++ basedDigits 8 false m))
    else if conversion = 'x' then
      l.pad true (if l.marked && m ≠ 0 then [48, 120] else []) (digits (basedDigits 16 false m))
    else if conversion = 'X' then
      l.pad true (if l.marked && m ≠ 0 then [48, 88] else []) (digits (basedDigits 16 true m))
    else l.pad true [] (digits (Numeral.written m))

def Layout.convert (l : Layout) (conversion : Char) (p : Printed) : Option Printed :=
  let a := p.arguments.head?.getD []
  let p' := { p with arguments := p.arguments.drop 1 }
  let short (bs : Bytes) : Bytes := match l.precision with
    | some n => bs.take n
    | none => bs
  if conversion = 's' then
    some { p' with bytes := p'.bytes ++ l.pad false [] (short (Utf8.encode a)) }
  else if conversion = 'b' then
    let e := escapedText a
    some { p' with bytes := p'.bytes ++ l.pad false [] (short e.bytes), ends := e.ends }
  else if conversion = 'c' then
    some { p' with bytes := p'.bytes ++ l.pad false [] ((Utf8.encode a).take 1) }
  else if (lit "dioxXu").contains conversion then
    let r := argumentNumber a
    some
      { p' with
        bytes := p'.bytes ++ l.number conversion r.1
        complaints := p'.complaints ++ r.2.toList }
  else none

def layoutOf (t : Text) (p : Printed) : Layout × Text × Printed :=
  let isFlag (c : Char) : Bool := (lit "-0+ #").contains c
  let flags := t.takeWhile isFlag
  let t := t.dropWhile isFlag
  let l : Layout :=
    { toLeft := flags.contains '-', zeros := flags.contains '0', plus := flags.contains '+'
      blank := flags.contains ' ', marked := flags.contains '#' }
  let size (t : Text) (p : Printed) : Int × Text × Printed :=
    match t with
    | '*' :: t =>
      ((argumentNumber (p.arguments.head?.getD [])).1, t,
        { p with arguments := p.arguments.drop 1 })
    | _ => (Numeral.value (t.takeWhile Numeral.isDigit), t.dropWhile Numeral.isDigit, p)
  let (width, t, p) := size t p
  let l := { l with width := width.natAbs, toLeft := l.toLeft || width < 0 }
  match t with
  | '.' :: t =>
    let (precision, t, p) := size t p
    ({ l with precision := if precision < 0 then none else some precision.toNat }, t, p)
  | _ => (l, t, p)

def printOnce : Nat → Text → Printed → Printed
  | 0, _, p => p
  | _ + 1, [], p => p
  | room + 1, c :: t, p =>
    let write (bs : Bytes) (p : Printed) : Printed := { p with bytes := p.bytes ++ bs }
    if p.ends then p
    else if c = '\\' then
      match t with
      | [] => write [92] p
      | d :: rest =>
        if (octalValue? d).isSome then
          let r := octal 3 0 t
          printOnce room r.2 (write [r.1.toUInt8] p)
        else match letterEscape? d with
          | some b => printOnce room rest (write [b] p)
          | none => printOnce room t (write [92] p)
    else if c = '%' then
      match t with
      | '%' :: rest => printOnce room rest (write [37] p)
      | _ =>
        let (l, rest, p) := layoutOf t p
        match rest with
        | [] =>
          { p with complaints := p.complaints ++ [lit "missing format character"], ends := true }
        | conversion :: rest =>
          match l.convert conversion p with
          | some p => printOnce room rest p
          | none =>
            { p with
              complaints := p.complaints ++ ['%' :: conversion :: lit ": invalid directive"]
              ends := true }
    else printOnce room t (write (Utf8.encodeChar c) p)

def printAll (format : Text) : Nat → Printed → Printed
  | 0, p => p
  | room + 1, p =>
    let q := printOnce (format.length + 1) format p
    if q.ends || q.arguments.isEmpty || q.arguments.length = p.arguments.length then q
    else printAll format room q

def printed (format : Text) (arguments : List Text) : Printed :=
  printAll format (arguments.length + 1) { arguments }

end BookingRetry.Shell
