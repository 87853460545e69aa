import BookingRetry.Text.Numeral

/-!
Sums of the shell: whole numbers of sixty-four bits with a sign, variables by their names, and the
operators of the language from the loosest to the tightest.
-/
namespace BookingRetry.Shell

abbrev Variables := List (Text × Text)

inductive SumFault where
  | expectingPrimary
  | expectingEnd
  | expectingClosing
  | expectingColon
  | divisionByZero
  | notANumber (value : Text)
  deriving DecidableEq, Repr

def SumFault.message (expression : Text) : SumFault → Text
  | .notANumber v => lit "Illegal number: " ++ v
  | f =>
    let what := match f with
      | .expectingPrimary => lit "expecting primary"
      | .expectingEnd => lit "expecting EOF"
      | .expectingClosing => lit "expecting ')'"
      | .expectingColon => lit "expecting ':'"
      | _ => lit "division by zero"
    lit "arithmetic expression: " ++ what ++ lit ": \"" ++ expression ++ ['"']

def wrapped (n : Int) : Int := n.bmod (Nat.pow 2 64)

def ofTruth (b : Bool) : Int := if b then 1 else 0

inductive BinaryOp where
  | either | both | bitOr | bitXor | bitAnd | equal | unequal | atMost | atLeast | less | more
  | left | right | plus | minus | times | quotient | remainder
  deriving DecidableEq, Repr

def bits (n : Int) : Nat := (n % (Nat.pow 2 64 : Nat)).toNat

def BinaryOp.apply (o : BinaryOp) (a b : Int) : Except SumFault Int :=
  match o with
  | either => .ok (ofTruth (a ≠ 0 || b ≠ 0))
  | both => .ok (ofTruth (a ≠ 0 && b ≠ 0))
  | bitOr => .ok (wrapped (bits a ||| bits b : Nat))
  | bitXor => .ok (wrapped (bits a ^^^ bits b : Nat))
  | bitAnd => .ok (wrapped (bits a &&& bits b : Nat))
  | equal => .ok (ofTruth (a = b))
  | unequal => .ok (ofTruth (a ≠ b))
  | atMost => .ok (ofTruth (a ≤ b))
  | atLeast => .ok (ofTruth (b ≤ a))
  | less => .ok (ofTruth (a < b))
  | more => .ok (ofTruth (b < a))
  | left => .ok (wrapped (a * (Nat.pow 2 (bits b % 64) : Nat)))
  | right => .ok (a / (Nat.pow 2 (bits b % 64) : Nat))
  | plus => .ok (wrapped (a + b))
  | minus => .ok (wrapped (a - b))
  | times => .ok (wrapped (a * b))
  | quotient => if b = 0 then .error .divisionByZero else .ok (wrapped (a.tdiv b))
  | remainder => if b = 0 then .error .divisionByZero else .ok (a.tmod b)

def binaryOps : Nat → List (String × BinaryOp)
  | 0 => [("||", .either)]
  | 1 => [("&&", .both)]
  | 2 => [("|", .bitOr)]
  | 3 => [("^", .bitXor)]
  | 4 => [("&", .bitAnd)]
  | 5 => [("==", .equal), ("!=", .unequal)]
  | 6 => [("<=", .atMost), (">=", .atLeast), ("<", .less), (">", .more)]
  | 7 => [("<<", .left), (">>", .right)]
  | 8 => [("+", .plus), ("-", .minus)]
  | _ => [("*", .times), ("/", .quotient), ("%", .remainder)]

def tightest : Nat := 10

def skipBlanks (t : Text) : Text := t.dropWhile fun c => c = ' ' || c = '\t' || c = '\n'

def anyOp? (t : Text) : Option (Text × Text) :=
  let names := (List.range tightest).flatMap fun l => (binaryOps l).map fun o => lit o.1
  let found := names.filterMap fun n => (Text.after? n t).map fun rest => (n, rest)
  found.foldl (fun best f => match best with
    | some b => if b.1.length < f.1.length then some f else best
    | none => some f) none

/-- The operator of a level that stands in front, unless a longer one does. -/
def opAt? (level : Nat) (t : Text) : Option (BinaryOp × Text) :=
  match anyOp? (skipBlanks t) with
  | none => none
  | some (name, rest) =>
    match (binaryOps level).find? fun o => lit o.1 = name with
    | some o =>
      if rest.head? = some '=' && o.2 ≠ .equal && o.2 ≠ .unequal then none else some (o.2, rest)
    | none => none

def readNumber? (t : Text) : Option Int :=
  let inBase (base : Nat) (ds : Text) : Option Int :=
    ds.foldl (fun acc c => match acc, Numeral.hexValue? c with
      | some n, some d => if d < base then some (n * base + d) else none
      | _, _ => none) (some (0 : Int))
  match t with
  | [] => none
  | '0' :: 'x' :: ds => if ds.isEmpty then none else inBase 16 ds
  | '0' :: 'X' :: ds => if ds.isEmpty then none else inBase 16 ds
  | '0' :: ds => inBase 8 ds
  | ds => inBase 10 ds

def isNumberChar (c : Char) : Bool :=
  Numeral.isDigit c || ('a' ≤ c && c ≤ 'z') || ('A' ≤ c && c ≤ 'Z')

def isVariableChar (c : Char) : Bool := isNumberChar c || c = '_'

def valueNumber (value : Option Text) : Except SumFault Int :=
  let v := value.getD []
  let t := skipBlanks v
  let (negative, digits) := match t with
    | '-' :: ds => (true, ds)
    | '+' :: ds => (false, ds)
    | ds => (false, ds)
  if t.isEmpty then .ok 0
  else match readNumber? digits with
    | some n => .ok (wrapped (if negative then -n else n))
    | none => .error (.notANumber v)

abbrev SumResult := Except SumFault (Int × Text × Variables)

def assignmentFront? (t : Text) : Option (Text × Option BinaryOp × Text) :=
  let t := skipBlanks t
  let name := t.takeWhile isVariableChar
  let rest := skipBlanks (t.dropWhile isVariableChar)
  let starts : Bool := match name with
    | [] => false
    | c :: _ => !Numeral.isDigit c
  if !starts then none
  else match rest with
    | '=' :: '=' :: _ => none
    | '=' :: rest => some (name, none, rest)
    | _ =>
      let ops : List (String × BinaryOp) :=
        [("+=", .plus), ("-=", .minus), ("*=", .times), ("/=", .quotient), ("%=", .remainder)]
      ops.findSome? fun o => (Text.after? (lit o.1) rest).map fun r => (name, some o.2, r)

mutual

def sum : Nat → Text → Variables → SumResult
  | 0, _, _ => .error .expectingPrimary
  | room + 1, t, vs =>
    match assignmentFront? t with
    | some (name, o, rest) =>
      match sum room rest vs with
      | .error e => .error e
      | .ok (n, rest, vs) =>
        let value : Except SumFault Int := match o with
          | none => .ok n
          | some o =>
            match valueNumber ((vs.find? fun v => v.1 = name).map Prod.snd) with
            | .error e => .error e
            | .ok old => o.apply old n
        match value with
        | .error e => .error e
        | .ok n => .ok (n, rest, (name, Numeral.writtenInt n) :: vs)
    | none =>
      match binary room 0 t vs with
      | .error e => .error e
      | .ok (n, rest, vs) =>
        match skipBlanks rest with
        | '?' :: rest =>
          match sum room rest vs with
          | .error e => .error e
          | .ok (yes, rest, vs) =>
            match skipBlanks rest with
            | ':' :: rest =>
              match sum room rest vs with
              | .error e => .error e
              | .ok (no, rest, vs) => .ok (if n ≠ 0 then yes else no, rest, vs)
            | _ => .error .expectingColon
        | _ => .ok (n, rest, vs)

def binary : Nat → Nat → Text → Variables → SumResult
  | 0, _, _, _ => .error .expectingPrimary
  | room + 1, level, t, vs =>
    if level < tightest then
      match binary room (level + 1) t vs with
      | .error e => .error e
      | .ok (n, rest, vs) => binaryRest room level n rest vs
    else unary room t vs

def binaryRest : Nat → Nat → Int → Text → Variables → SumResult
  | 0, _, n, t, vs => .ok (n, t, vs)
  | room + 1, level, n, t, vs =>
    match opAt? level t with
    | none => .ok (n, t, vs)
    | some (o, rest) =>
      match binary room (level + 1) rest vs with
      | .error e => .error e
      | .ok (m, rest, vs) =>
        match o.apply n m with
        | .error e => .error e
        | .ok n => binaryRest room level n rest vs

def unary : Nat → Text → Variables → SumResult
  | 0, _, _ => .error .expectingPrimary
  | room + 1, t, vs =>
    let after (f : Int → Int) (rest : Text) : SumResult :=
      match unary room rest vs with
      | .error e => .error e
      | .ok (n, rest, vs) => .ok (f n, rest, vs)
    match skipBlanks t with
    | '!' :: rest => after (fun n => ofTruth (n = 0)) rest
    | '~' :: rest => after (fun n => -n - 1) rest
    | '-' :: rest => after (fun n => wrapped (-n)) rest
    | '+' :: rest => after (fun n => n) rest
    | '(' :: rest =>
      match sum room rest vs with
      | .error e => .error e
      | .ok (n, rest, vs) =>
        match skipBlanks rest with
        | ')' :: rest => .ok (n, rest, vs)
        | _ => .error .expectingClosing
    | c :: cs =>
      let word := (c :: cs).takeWhile isVariableChar
      let rest := (c :: cs).dropWhile isVariableChar
      if Numeral.isDigit c then
        match readNumber? word with
        | some n => .ok (wrapped n, rest, vs)
        | none => .error .expectingEnd
      else if word.isEmpty then .error .expectingPrimary
      else
        match valueNumber ((vs.find? fun v => v.1 = word).map Prod.snd) with
        | .ok n => .ok (n, rest, vs)
        | .error e => .error e
    | [] => .error .expectingPrimary

end

def evaluate (t : Text) (vs : Variables) : Except SumFault (Int × Variables) :=
  if (skipBlanks t).isEmpty then .ok (0, vs)
  else match sum (14 * (t.length + 2)) t vs with
    | .error e => .error e
    | .ok (n, rest, vs) =>
      if (skipBlanks rest).isEmpty then .ok (n, vs) else .error .expectingEnd

end BookingRetry.Shell
