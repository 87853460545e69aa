import BookingRetry.Config.Setting

/-!
Laying settings over others. Keys do not tell capitals from small letters. A table is laid over a
table field by field, so an empty one changes nothing; any other value replaces what was there. A
key may name a place further down, by names with points between them and by numbers in brackets; a
negative number counts from the end of a list.
-/
namespace BookingRetry.Config

inductive Step where
  | field (name : Text)
  | item (index : Int)
  deriving DecidableEq, Repr

structure Key where
  name : Text
  steps : List Step
  deriving DecidableEq, Repr

namespace Key

def isNameChar (c : Char) : Bool :=
  Numeral.isDigit c || ('a' ≤ c && c ≤ 'z') || ('A' ≤ c && c ≤ 'Z') || c = '_' || c = '-' || c = ' '

def isName (t : Text) : Bool := !t.isEmpty && t.all isNameChar

def isPad (c : Char) : Bool := c = ' ' || c = '\t'

def index? (t : Text) : Option Int :=
  let number := ((t.dropWhile isPad).reverse.dropWhile isPad).reverse
  if number.head? = some '+' then none else Numeral.readSigned? number

def items? : List Text → Option (List Step)
  | [] => some []
  | t :: ts =>
    match (Text.before? [']'] t).bind index?, items? ts with
    | some n, some rest => some (.item n :: rest)
    | _, _ => none

def part? (t : Text) : Option (Text × List Step) :=
  match Text.pieces '[' t with
  | [] => none
  | name :: rest => if isName name then (items? rest).map fun s => (name, s) else none

def parts? : List Text → Option (List Step)
  | [] => some []
  | t :: ts =>
    match part? t, parts? ts with
    | some (name, items), some rest => some (.field name :: items ++ rest)
    | _, _ => none

/-- The key that a text spells; a text that spells none is a name as a whole. -/
def ofText (t : Text) : Key :=
  match parts? (Text.pieces '.' t) with
  | some (.field name :: steps) => ⟨name, steps⟩
  | _ => ⟨t, []⟩

end Key

namespace Setting

mutual

def laid (key : Text) : Setting → Setting → Setting
  | table incoming, root =>
    let fs := root.fields
    let key := Text.lowered key
    table (fs.put key (laidAll incoming ((fs.get? key).getD (table []))))
  | value, root => table (root.fields.put (Text.lowered key) value)

def laidAll : List (Text × Setting) → Setting → Setting
  | [], root => root
  | (key, value) :: rest, root => laidAll rest (laid key value root)

end

/-- Where an index points in a list of some length. Nothing stands in front of the first item. -/
def place? (length : Nat) (i : Int) : Option Nat :=
  if 0 ≤ i then some i.toNat
  else if i.natAbs ≤ length then some (length - i.natAbs)
  else none

def withItem (i : Int) (f : Setting → Setting) (items : List Setting) : List Setting :=
  match place? items.length i with
  | none => items
  | some i =>
    let padded := items ++ List.replicate (i + 1 - items.length) nothing
    padded.take i ++ f (padded[i]?.getD nothing) :: padded.drop (i + 1)

def items : Setting → List Setting
  | list xs => xs
  | _ => []

/-- Changes the value at the end of some steps. What stands in the way gives way. -/
def changed (f : Setting → Setting) : List Step → Setting → Setting
  | [], s => f s
  | .field name :: steps, s =>
    let key := Text.lowered name
    table (s.fields.put key (changed f steps ((s.fields.get? key).getD nothing)))
  | .item i :: steps, s => list (withItem i (changed f steps) s.items)

def laidAt (key : Key) (value root : Setting) : Setting :=
  match key.steps.reverse with
  | [] => laid key.name value root
  | .field name :: before => changed (laid name value) (.field key.name :: before.reverse) root
  | .item i :: before =>
    changed (fun s => list (withItem i (fun _ => value) s.items))
      (.field key.name :: before.reverse) root

def laidOver (layer : Fields) (root : Setting) : Setting :=
  layer.foldl (fun s f => laidAt (Key.ofText f.1) f.2 s) root

end Setting

end BookingRetry.Config
