import BookingRetry.Host
import BookingRetry.Shell.Sum

/-!
What can be asked of texts, numbers and files by `test`, and by brackets.
-/
namespace BookingRetry.Shell

inductive ConditionFault where
  | illegalNumber (t : Text)
  | unexpectedOperator (t : Text)
  | argumentExpected (t : Text)
  | closingExpected
  deriving DecidableEq, Repr

def ConditionFault.message : ConditionFault → Text
  | illegalNumber t => lit "Illegal number: " ++ t
  | unexpectedOperator t => t ++ lit ": unexpected operator"
  | argumentExpected t => t ++ lit ": argument expected"
  | closingExpected => lit "closing paren expected"

def leastNumber : Int := -(Nat.pow 2 63 : Nat)

def greatestNumber : Int := (Nat.pow 2 63 : Nat) - 1

def conditionNumber (t : Text) : Except ConditionFault Int :=
  let body := (skipBlanks (skipBlanks t).reverse).reverse
  let (negative, digits) := match body with
    | '-' :: ds => (true, ds)
    | '+' :: ds => (false, ds)
    | ds => (false, ds)
  match Numeral.readDigits? digits with
  | some n =>
    let n : Int := if negative then -n else n
    if n < leastNumber || greatestNumber < n then .error (.illegalNumber t) else .ok n
  | none => .error (.illegalNumber t)

def unaryCondition? (h : Host) (operator t : Text) : Option Bool :=
  let found := (h.tree.lookup h.cwd t).toOption.map Prod.snd
  match String.ofList operator with
  | "-n" => some !t.isEmpty
  | "-z" => some t.isEmpty
  | "-e" => some found.isSome
  | "-f" => some (h.tree.hasFile h.cwd t)
  | "-d" => some (h.tree.hasDirectory h.cwd t)
  | "-r" => some found.isSome
  | "-w" => some found.isSome
  | "-x" => some (match found with
    | some (.file _ mode _) => mode &&& 0o111 ≠ 0
    | some .directory => true
    | _ => false)
  | "-s" => some (match found with
    | some (.file content _ _) => !content.isEmpty
    | some .directory => true
    | _ => false)
  | "-L" => some (isLink t)
  | "-h" => some (isLink t)
  | "-t" => some false
  | _ => none
where
  isLink (t : Text) : Bool :=
    match h.tree.locate false h.cwd t with
    | .ok (.found _ (.link _)) => true
    | _ => false

def binaryCondition? (a operator b : Text) : Option (Except ConditionFault Bool) :=
  let numbers (f : Int → Int → Bool) : Except ConditionFault Bool :=
    match conditionNumber a, conditionNumber b with
    | .ok m, .ok n => .ok (f m n)
    | .error e, _ => .error e
    | _, .error e => .error e
  match String.ofList operator with
  | "=" => some (.ok (a = b))
  | "!=" => some (.ok (a ≠ b))
  | "<" => some (.ok (a < b))
  | ">" => some (.ok (b < a))
  | "-eq" => some (numbers fun m n => m = n)
  | "-ne" => some (numbers fun m n => m ≠ n)
  | "-lt" => some (numbers fun m n => m < n)
  | "-le" => some (numbers fun m n => m ≤ n)
  | "-gt" => some (numbers fun m n => n < m)
  | "-ge" => some (numbers fun m n => n ≤ m)
  | _ => none

abbrev ConditionResult := Except ConditionFault (Bool × List Text)

mutual

def anyHolds (h : Host) : Nat → List Text → ConditionResult
  | 0, _ => .error .closingExpected
  | room + 1, ws =>
    match allHold h room ws with
    | .error e => .error e
    | .ok (b, w :: rest) =>
      if w = lit "-o" then
        match anyHolds h room rest with
        | .error e => .error e
        | .ok (c, rest) => .ok (b || c, rest)
      else .ok (b, w :: rest)
    | .ok r => .ok r

def allHold (h : Host) : Nat → List Text → ConditionResult
  | 0, _ => .error .closingExpected
  | room + 1, ws =>
    match holds h room ws with
    | .error e => .error e
    | .ok (b, w :: rest) =>
      if w = lit "-a" then
        match allHold h room rest with
        | .error e => .error e
        | .ok (c, rest) => .ok (b && c, rest)
      else .ok (b, w :: rest)
    | .ok r => .ok r

def holds (h : Host) : Nat → List Text → ConditionResult
  | 0, _ => .error .closingExpected
  | _ + 1, [] => .ok (false, [])
  | room + 1, w :: ws =>
    let single : ConditionResult :=
      if w = ['!'] && !ws.isEmpty then
        match holds h room ws with
        | .error e => .error e
        | .ok (b, rest) => .ok (!b, rest)
      else if w = ['('] && !ws.isEmpty then
        match anyHolds h room ws with
        | .error e => .error e
        | .ok (b, c :: rest) => if c = [')'] then .ok (b, rest) else .error .closingExpected
        | .ok (_, []) => .error .closingExpected
      else match ws with
        | t :: rest =>
          match unaryCondition? h w t with
          | some b => .ok (b, rest)
          | none =>
            if rest.isEmpty && (binaryCondition? w t []).isSome then .error (.argumentExpected t)
            else .ok (!w.isEmpty, ws)
        | [] => .ok (!w.isEmpty, [])
    match ws with
    | o :: b :: rest =>
      match binaryCondition? w o b with
      | some (.ok r) => .ok (r, rest)
      | some (.error e) => .error e
      | none => single
    | _ => single

end

/-- Whether the words of a condition hold. No word at all does not. If words are left over, the one
in front of them is told. -/
def condition? (h : Host) (ws : List Text) : Except ConditionFault Bool :=
  match ws with
  | [] => .ok false
  | _ =>
    match anyHolds h (3 * ws.length + 3) ws with
    | .error e => .error e
    | .ok (b, []) => .ok b
    | .ok (_, rest) => .error (.unexpectedOperator (ws[ws.length - rest.length - 1]?.getD []))

end BookingRetry.Shell
