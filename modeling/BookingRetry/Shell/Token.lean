import BookingRetry.Shell.Syntax
import BookingRetry.Text.Numeral

/-!
Cutting a script into words and operators. A backslash takes the meaning from the next character,
single quotes from all characters between them, and double quotes from all but the dollar sign, the
backquote and the backslash.
-/
namespace BookingRetry.Shell

inductive Operator where
  | lineBreak
  | semicolon
  | doubleSemicolon
  | both
  | either
  | pipe
  | background
  | opening
  | closing
  | redirect (d : Direction)
  deriving DecidableEq, Repr

inductive Mark where
  | word (w : Word)
  | stream (n : Nat)
  | operator (o : Operator)
  | unterminated
  deriving DecidableEq, Repr

structure Token where
  line : Nat
  mark : Mark
  deriving DecidableEq, Repr

def backquote : Char := '\x60'

def isSpace (c : Char) : Bool := c = ' ' || c = '\t'

def isMeta (c : Char) : Bool := isSpace c || (lit "\n;&|<>()").contains c

def isNameStart (c : Char) : Bool := ('a' ≤ c && c ≤ 'z') || ('A' ≤ c && c ≤ 'Z') || c = '_'

def isNameChar (c : Char) : Bool := isNameStart c || Numeral.isDigit c

def isSpecial (c : Char) : Bool := (lit "@*#?$!-").contains c || Numeral.isDigit c

inductive Quoting where
  | none
  | single
  | double
  deriving DecidableEq, Repr

/-- The text up to a closing bracket, and what follows. Brackets in quotes do not count, and
neither do those that are opened and closed on the way. -/
def bracketed (opening closing : Char) : Quoting → Nat → Text → Option (Text × Text)
  | _, _, [] => .none
  | q, depth, c :: cs =>
    let more (q : Quoting) (depth : Nat) : Option (Text × Text) :=
      (bracketed opening closing q depth cs).map fun r => (c :: r.1, r.2)
    match q with
    | .single => more (if c = '\'' then .none else .single) depth
    | .double =>
      if c = '\\' then
        match cs with
        | [] => .none
        | x :: xs => (bracketed opening closing .double depth xs).map fun r => (c :: x :: r.1, r.2)
      else more (if c = '"' then .none else .double) depth
    | .none =>
      if c = '\\' then
        match cs with
        | [] => .none
        | x :: xs => (bracketed opening closing .none depth xs).map fun r => (c :: x :: r.1, r.2)
      else if c = '\'' then more .single depth
      else if c = '"' then more .double depth
      else if c = closing then
        match depth with
        | 0 => some ([], cs)
        | depth + 1 => more .none depth
      else if c = opening then more .none (depth + 1)
      else more .none depth

def closedBy (mark : Char) : Text → Option (Text × Text)
  | [] => none
  | c :: cs => if c = mark then some ([], cs) else (closedBy mark cs).map fun r => (c :: r.1, r.2)

/-- The text up to the next backquote; a backslash keeps it, itself and the dollar sign from
counting. -/
def backquoted : Text → Option (Text × Text)
  | [] => none
  | [c] => if c = backquote then some ([], []) else none
  | c :: d :: cs =>
    if c = backquote then some ([], d :: cs)
    else if c = '\\' && (d = backquote || d = '\\' || d = '$') then
      (backquoted cs).map fun r => (d :: r.1, r.2)
    else (backquoted (d :: cs)).map fun r => (c :: r.1, r.2)

def modifier? : Text → Option (Modifier × Bool × Text)
  | ':' :: '-' :: w => some (.instead, true, w)
  | '-' :: w => some (.instead, false, w)
  | ':' :: '=' :: w => some (.assigned, true, w)
  | '=' :: w => some (.assigned, false, w)
  | ':' :: '+' :: w => some (.other, true, w)
  | '+' :: w => some (.other, false, w)
  | ':' :: '?' :: w => some (.demanded, true, w)
  | '?' :: w => some (.demanded, false, w)
  | '#' :: '#' :: w => some (.withoutFront true, false, w)
  | '#' :: w => some (.withoutFront false, false, w)
  | '%' :: '%' :: w => some (.withoutBack true, false, w)
  | '%' :: w => some (.withoutBack false, false, w)
  | _ => none

def parameter? : Text → Option (Text × Text)
  | [] => none
  | c :: cs =>
    if isNameStart c then some (c :: cs.takeWhile isNameChar, cs.dropWhile isNameChar)
    else if isSpecial c then some ([c], cs)
    else none

def braced? (inQuotes : Bool) (t : Text) : Option Piece :=
  let size? : Option Piece := match t with
    | '#' :: rest =>
      match parameter? rest with
      | some (name, []) => some (.size name inQuotes)
      | _ => none
    | _ => none
  match size? with
  | some p => some p
  | none =>
    match parameter? t with
    | none => none
    | some (name, []) => some (.value name inQuotes)
    | some (name, rest) =>
      (modifier? rest).map fun m => .modified name m.1 m.2.1 m.2.2 inQuotes

def dollar (inQuotes : Bool) (t : Text) : Option (Piece × Text) :=
  match t with
  | '\x7b' :: rest =>
    match bracketed '\x7b' '\x7d' .none 0 rest with
    | none => none
    | some (inner, rest) => (braced? inQuotes inner).map fun p => (p, rest)
  | '(' :: rest =>
    match bracketed '(' ')' .none 0 rest with
    | none => none
    | some (inner, rest) =>
      match inner with
      | '(' :: expression =>
        if expression.getLast? = some ')' then some (.sum expression.dropLast inQuotes, rest)
        else some (.output inner inQuotes, rest)
      | _ => some (.output inner inQuotes, rest)
  | _ =>
    match parameter? t with
    | some (name, rest) => some (.value name inQuotes, rest)
    | none => some ((if inQuotes then .quoted ['$'] else .plain ['$']), t)

def doubleQuoted : Nat → Text → Option (Word × Text)
  | 0, _ => none
  | _ + 1, [] => none
  | room + 1, c :: t =>
    let more (p : Piece) (t : Text) : Option (Word × Text) :=
      (doubleQuoted room t).map fun r => (p :: r.1, r.2)
    if c = '"' then some ([], t)
    else if c = '\\' then
      match t with
      | [] => none
      | '\n' :: t => doubleQuoted room t
      | d :: t =>
        if d = '$' || d = '"' || d = '\\' || d = backquote then more (.quoted [d]) t
        else more (.quoted ['\\', d]) t
    else if c = '$' then (dollar true t).bind fun r => more r.1 r.2
    else if c = backquote then (backquoted t).bind fun r => more (.output r.1 true) r.2
    else more (.quoted [c]) t

def wordPieces : Nat → Text → Option (Word × Text)
  | 0, t => some ([], t)
  | _ + 1, [] => some ([], [])
  | room + 1, c :: t =>
    let more (p : Piece) (t : Text) : Option (Word × Text) :=
      (wordPieces room t).map fun r => (p :: r.1, r.2)
    if isMeta c then some ([], c :: t)
    else if c = '\\' then
      match t with
      | [] => some ([.quoted ['\\']], [])
      | '\n' :: t => wordPieces room t
      | d :: t => more (.quoted [d]) t
    else if c = '\'' then (closedBy '\'' t).bind fun r => more (.quoted r.1) r.2
    else if c = '"' then
      match doubleQuoted (t.length + 1) t with
      | none => none
      | some ([], t) => more (.quoted []) t
      | some (ps, t) => (wordPieces room t).map fun r => (ps ++ r.1, r.2)
    else if c = '$' then (dollar false t).bind fun r => more r.1 r.2
    else if c = backquote then (backquoted t).bind fun r => more (.output r.1 false) r.2
    else more (.plain [c]) t

def merged : Word → Word
  | [] => []
  | p :: ps =>
    match p, merged ps with
    | .plain a, .plain b :: rest => .plain (a ++ b) :: rest
    | .quoted a, .quoted b :: rest => .quoted (a ++ b) :: rest
    | p, rest => p :: rest

def plainText? : Word → Option Text
  | [.plain t] => some t
  | _ => none

def operator? : Text → Option (Operator × Text)
  | '\n' :: t => some (.lineBreak, t)
  | ';' :: ';' :: t => some (.doubleSemicolon, t)
  | ';' :: t => some (.semicolon, t)
  | '&' :: '&' :: t => some (.both, t)
  | '&' :: t => some (.background, t)
  | '|' :: '|' :: t => some (.either, t)
  | '|' :: t => some (.pipe, t)
  | '(' :: t => some (.opening, t)
  | ')' :: t => some (.closing, t)
  | '>' :: '>' :: t => some (.redirect .addition, t)
  | '>' :: '&' :: t => some (.redirect .same, t)
  | '>' :: '|' :: t => some (.redirect .output, t)
  | '>' :: t => some (.redirect .output, t)
  | '<' :: '&' :: t => some (.redirect .same, t)
  | '<' :: t => some (.redirect .input, t)
  | _ => none

def isRedirection : Text → Bool
  | '<' :: _ => true
  | '>' :: _ => true
  | _ => false

def lineBreaks (t : Text) : Nat := (t.filter fun c => c = '\n').length

/-- The tokens of a script from a line on. One that is not finished is the last. -/
def tokensFrom : Nat → Nat → Text → List Token
  | 0, _, _ => []
  | _ + 1, _, [] => []
  | room + 1, line, c :: t =>
    if isSpace c then tokensFrom room line t
    else if c = '#' then tokensFrom room line (t.dropWhile fun c => c ≠ '\n')
    else if c = '\\' && t.head? = some '\n' then tokensFrom room (line + 1) (t.drop 1)
    else match operator? (c :: t) with
      | some (o, rest) =>
        let next := if o = .lineBreak then line + 1 else line
        ⟨line, .operator o⟩ :: tokensFrom room next rest
      | none =>
        match wordPieces (t.length + 2) (c :: t) with
        | none => [⟨line + lineBreaks t, .unterminated⟩]
        | some (w, rest) =>
          let next := line + (lineBreaks t - lineBreaks rest)
          let w := merged w
          match (plainText? w).bind Numeral.readDigits? with
          | some n =>
            if isRedirection rest then ⟨line, .stream n⟩ :: tokensFrom room next rest
            else ⟨line, .word w⟩ :: tokensFrom room next rest
          | none => ⟨line, .word w⟩ :: tokensFrom room next rest

def tokens (t : Text) : List Token := tokensFrom (t.length + 1) 1 t

end BookingRetry.Shell
