import BookingRetry.Json.Outline
import BookingRetry.Json.Printer
import BookingRetry.Text.Quoted

/-!
What an outline is read as. A value that is wanted has to be whole: its escapes must spell
characters, its numbers must be in range, and it must not be nested too deep. A value that is
passed over need only be JSON.
-/
namespace BookingRetry.Json

inductive ReadFault where
  | json (f : Fault)
  | shape (message : Text)
  deriving DecidableEq, Repr

def ReadFault.message : ReadFault → Text
  | json .ended => lit "unexpected end of the text"
  | json .malformed => lit "not a JSON text"
  | shape message => message

def joinedHalves (high low : Nat) : Char :=
  Char.ofNat (0x10000 + (high - 0xD800) * 0x400 + (low - 0xDC00))

def isHighHalf (n : Nat) : Bool := 0xD800 ≤ n && n ≤ 0xDBFF

def isLowHalf (n : Nat) : Bool := 0xDC00 ≤ n && n ≤ 0xDFFF

/-- The text of a written string. A half character alone spells nothing. -/
def spelled (fault : Option Fault) : List Piece → Except Fault Text
  | [] =>
    match fault with
    | none => .ok []
    | some f => .error f
  | .char c :: ps => (spelled fault ps).map (c :: ·)
  | .unit n :: ps =>
    if isLowHalf n then .error .malformed
    else if isHighHalf n then
      match ps with
      | .unit m :: ps =>
        if isLowHalf m then (spelled fault ps).map (joinedHalves n m :: ·) else .error .malformed
      | .char _ :: _ => .error .malformed
      | [] => .error (fault.getD .malformed)
    else (spelled fault ps).map (Char.ofNat n :: ·)

def Quoted.text (q : Quoted) : Except Fault Text := spelled q.fault q.pieces

def firstFault (a b : Option Fault) : Option Fault := a.or b

def maxDepth : Nat := 127

namespace Outline

mutual

def skim : Outline → Option Fault
  | .cutNumber => some .malformed
  | .broken f => some f
  | .string q => q.fault
  | .array items fault => firstFault (skimItems items) fault
  | .object members fault => firstFault (skimMembers members) fault
  | _ => none

def skimItems : List Outline → Option Fault
  | [] => none
  | o :: os => firstFault o.skim (skimItems os)

def skimMembers : List (Quoted × Outline) → Option Fault
  | [] => none
  | (key, o) :: ms => firstFault (firstFault key.fault o.skim) (skimMembers ms)

end

def finished {α : Type} (fault : Option Fault) (a : α) : Except Fault α :=
  match fault with
  | none => .ok a
  | some f => .error f

mutual

def value (depth : Nat) : Outline → Except Fault Value
  | .null => .ok .null
  | .bool b => .ok (.bool b)
  | .number f =>
    match f.number? with
    | some n => .ok (.number n)
    | none => .error .malformed
  | .cutNumber => .error .ended
  | .string q => q.text.map .string
  | .array items fault =>
    if maxDepth ≤ depth then .error .malformed
    else match valueItems (depth + 1) items with
      | .ok vs => finished fault (.array vs)
      | .error f => .error f
  | .object members fault =>
    if maxDepth ≤ depth then .error .malformed
    else match valueMembers (depth + 1) members with
      | .ok ms => finished fault (.object ms.ordered)
      | .error f => .error f
  | .broken f => .error f

def valueItems (depth : Nat) : List Outline → Except Fault (List Value)
  | [] => .ok []
  | o :: os =>
    match o.value depth with
    | .ok v => (valueItems depth os).map (v :: ·)
    | .error f => .error f

def valueMembers (depth : Nat) : List (Quoted × Outline) → Except Fault Members
  | [] => .ok []
  | (key, o) :: ms =>
    match key.text with
    | .error f => .error f
    | .ok key =>
      match o.value depth with
      | .ok v => (valueMembers depth ms).map ((key, v) :: ·)
      | .error f => .error f

end

def described : Outline → Except Fault Text
  | .null => .ok (lit "null")
  | .bool b => .ok (lit "boolean `" ++ (if b then lit "true" else lit "false") ++ lit "`")
  | .number f =>
    match f.number? with
    | some n =>
      let kind := match n with
        | .whole _ => lit "integer `"
        | .binary .. => lit "floating point `"
      .ok (kind ++ n.written ++ lit "`")
    | none => .error .malformed
  | .cutNumber => .error .ended
  | .string q => q.text.map fun t => lit "string " ++ Text.quoted t
  | .array .. => .ok (lit "sequence")
  | .object .. => .ok (lit "map")
  | .broken f => .error f

def mismatch (wanted : Text) (o : Outline) : ReadFault :=
  match o.described with
  | .ok found => .shape (lit "invalid type: " ++ found ++ lit ", expected " ++ wanted)
  | .error f => .json f

def textWanted : Text := lit "a string"

def text : Outline → Except ReadFault Text
  | .string q =>
    match q.text with
    | .ok t => .ok t
    | .error f => .error (.json f)
  | o => .error (o.mismatch textWanted)

end Outline

def Document.whole {α : Type} (d : Document) (read : Outline → Except ReadFault α) :
    Except ReadFault α :=
  match read d.outline with
  | .ok a => if d.trailing then .error (.json .malformed) else .ok a
  | .error f => .error f

def duplicate (key : Text) : ReadFault := .shape (lit "duplicate field `" ++ key ++ lit "`")

def missing (key : Text) : ReadFault := .shape (lit "missing field `" ++ key ++ lit "`")

end BookingRetry.Json
