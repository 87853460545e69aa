import BookingRetry.Number.Extended
import BookingRetry.Text.Lowercase

/-!
Values of settings, before it is known what they are for, and how they become what is wanted: a
text, a count, a list of texts. A single value is taken for another kind where it can be; a list or
a table never is.
-/
namespace BookingRetry.Config

inductive Setting where
  | nothing
  | flag (b : Bool)
  | whole (n : Int)
  | real (x : Number.Extended)
  | text (t : Text)
  | list (items : List Setting)
  | table (fields : List (Text × Setting))

abbrev Fields := List (Text × Setting)

def Fields.get? (key : Text) (fs : Fields) : Option Setting :=
  (fs.find? fun f => f.1 = key).map Prod.snd

def Fields.put (key : Text) (value : Setting) : Fields → Fields
  | [] => [(key, value)]
  | f :: fs => if f.1 = key then (key, value) :: fs else f :: Fields.put key value fs

namespace Setting

def trueWord : Text := lit "true"

def falseWord : Text := lit "false"

def toText? : Setting → Option Text
  | flag b => some (if b then trueWord else falseWord)
  | whole n => some (Numeral.writtenInt n)
  | real x => some x.written
  | text t => some t
  | _ => none

def countWords : List (Text × Nat) :=
  [(trueWord, 1), (lit "on", 1), (lit "yes", 1), (falseWord, 0), (lit "off", 0), (lit "no", 0)]

def countOfText? (t : Text) : Option Nat :=
  match countWords.find? fun w => w.1 = Text.lowered t with
  | some w => some w.2
  | none => Numeral.readWord? t

def toCount? : Setting → Option Nat
  | flag b => some (if b then 1 else 0)
  | whole n => if 0 ≤ n then some n.toNat else none
  | real x => some x.toWord
  | text t => countOfText? t
  | _ => none

def textsOf? : List Setting → Option (List Text)
  | [] => some []
  | s :: ss =>
    match s.toText?, textsOf? ss with
    | some t, some ts => some (t :: ts)
    | _, _ => none

def toTexts? : Setting → Option (List Text)
  | list items => textsOf? items
  | _ => none

def fields : Setting → Fields
  | table fs => fs
  | _ => []

end Setting

end BookingRetry.Config
