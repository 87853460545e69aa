import BookingRetry.Text.Numeral

/-!
Texts and keys of a TOML document. A reading takes what it can from the front and leaves the rest;
it is `none` where the document breaks the rules.
-/
namespace BookingRetry.Config.Toml

def isBlank (c : Char) : Bool := c = ' ' || c = '\t'

def skipBlanks (t : Text) : Text := t.dropWhile isBlank

def isPlain (c : Char) : Bool := c = '\t' || (0x20 ≤ c.toNat && c.toNat ≠ 0x7F)

def afterNewline? : Text → Option Text
  | '\n' :: rest => some rest
  | '\r' :: '\n' :: rest => some rest
  | _ => none

def skipGap : Text → Text
  | '\r' :: '\n' :: rest => skipGap rest
  | c :: rest => if isBlank c || c = '\n' then skipGap rest else c :: rest
  | [] => []

def escapes : List (Char × Char) :=
  [('b', '\x08'), ('t', '\t'), ('n', '\n'), ('f', '\x0c'), ('r', '\r'), ('"', '"'), ('\\', '\\')]

def hexDigits? : Nat → Text → Option Nat
  | n, [] => some n
  | n, c :: cs =>
    match Numeral.hexValue? c with
    | some d => hexDigits? (n * 16 + d) cs
    | none => none

def scalar? (n : Nat) : Option Char :=
  if n < 0xD800 || (0xE000 ≤ n && n < 0x110000) then some (Char.ofNat n) else none

def numbered? (count : Nat) (t : Text) : Option (Char × Text) :=
  let ds := t.take count
  if ds.length = count then
    ((hexDigits? 0 ds).bind scalar?).map fun c => (c, t.drop count)
  else none

def escaped? : Text → Option (Char × Text)
  | 'u' :: rest => numbered? 4 rest
  | 'U' :: rest => numbered? 8 rest
  | c :: rest => (escapes.find? fun e => e.1 = c).map fun e => (e.2, rest)
  | [] => none

def basic? : Nat → Text → Option (Text × Text)
  | 0, _ => none
  | _ + 1, [] => none
  | room + 1, c :: cs =>
    if c = '"' then some ([], cs)
    else if c = '\\' then
      match escaped? cs with
      | none => none
      | some (e, rest) => (basic? room rest).map fun r => (e :: r.1, r.2)
    else if isPlain c then (basic? room cs).map fun r => (c :: r.1, r.2)
    else none

def literal? : Text → Option (Text × Text)
  | [] => none
  | c :: cs =>
    if c = '\'' then some ([], cs)
    else if isPlain c then (literal? cs).map fun r => (c :: r.1, r.2)
    else none

def countMarks (mark : Char) (t : Text) : Nat × Text :=
  ((t.takeWhile fun c => c = mark).length, t.dropWhile fun c => c = mark)

/-- Reads a text of several lines after its opening marks. Three marks close it, and up to two
more before them belong to it. With `escape`, a backslash starts an escape, and one at the end of a
line joins it to the next text. -/
def several? (mark : Char) (escape : Bool) : Nat → Text → Option (Text × Text)
  | 0, _ => none
  | _ + 1, [] => none
  | room + 1, c :: cs =>
    if c = mark then
      let m := countMarks mark (c :: cs)
      if m.1 < 3 then
        (several? mark escape room m.2).map fun r => (List.replicate m.1 mark ++ r.1, r.2)
      else if m.1 ≤ 5 then some (List.replicate (m.1 - 3) mark, m.2)
      else none
    else if escape && c = '\\' then
      match afterNewline? (skipBlanks cs) with
      | some rest => several? mark escape room (skipGap rest)
      | none =>
        match escaped? cs with
        | none => none
        | some (e, rest) => (several? mark escape room rest).map fun r => (e :: r.1, r.2)
    else
      match afterNewline? (c :: cs) with
      | some rest => (several? mark escape room rest).map fun r => ('\n' :: r.1, r.2)
      | none =>
        if isPlain c then (several? mark escape room cs).map fun r => (c :: r.1, r.2) else none

def severalFrom? (mark : Char) (escape : Bool) (t : Text) : Option (Text × Text) :=
  let t := (afterNewline? t).getD t
  several? mark escape (t.length + 1) t

def text? : Text → Option (Text × Text)
  | '"' :: '"' :: '"' :: rest => severalFrom? '"' true rest
  | '"' :: rest => basic? (rest.length + 1) rest
  | '\'' :: '\'' :: '\'' :: rest => severalFrom? '\'' false rest
  | '\'' :: rest => literal? rest
  | _ => none

def isBareChar (c : Char) : Bool :=
  Numeral.isDigit c || ('a' ≤ c && c ≤ 'z') || ('A' ≤ c && c ≤ 'Z') || c = '_' || c = '-'

def name? : Text → Option (Text × Text)
  | '"' :: rest => basic? (rest.length + 1) rest
  | '\'' :: rest => literal? rest
  | t =>
    let name := t.takeWhile isBareChar
    if name.isEmpty then none else some (name, t.dropWhile isBareChar)

def maxNesting : Nat := 79

def names? : Nat → Text → Option (List Text × Text)
  | 0, _ => none
  | room + 1, t =>
    match name? (skipBlanks t) with
    | none => none
    | some (name, rest) =>
      match skipBlanks rest with
      | '.' :: rest => (names? room rest).map fun r => (name :: r.1, r.2)
      | rest => some ([name], rest)

def key? (t : Text) : Option (List Text × Text) := names? maxNesting t

def skipComment? (t : Text) : Option Text :=
  match t with
  | '#' :: rest =>
    let rest := rest.dropWhile isPlain
    match rest with
    | [] => some []
    | _ => (afterNewline? rest).map fun _ => rest
  | _ => some t

def skipTrivia? : Nat → Text → Option Text
  | 0, t => some t
  | room + 1, t =>
    match skipGap t with
    | '#' :: rest => (skipComment? ('#' :: rest)).bind (skipTrivia? room)
    | rest => some rest

end BookingRetry.Config.Toml
