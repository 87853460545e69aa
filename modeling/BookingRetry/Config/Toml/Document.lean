import BookingRetry.Config.Toml.Number

/-!
A TOML document as a table. Each line gives a key a value, opens a table, or opens the next table of
a list. A key is given a value once, a table is opened once, and tables that a header or a key with
points has made on its way are told apart from those that were opened.
-/
namespace BookingRetry.Config.Toml

inductive Origin where
  | header
  | dotted
  | opened
  deriving DecidableEq, Repr

inductive Item where
  | value (s : Setting)
  | table (origin : Origin) (entries : List (Text × Item))
  | tables (elements : List (List (Text × Item)))

abbrev Entries := List (Text × Item)

namespace Entries

def get? (key : Text) (es : Entries) : Option Item := (es.find? fun e => e.1 = key).map Prod.snd

def put (key : Text) (item : Item) : Entries → Entries
  | [] => [(key, item)]
  | e :: es => if e.1 = key then (key, item) :: es else e :: put key item es

/-- Gives a key a value, below the tables that the names before it lead to. The last of these must
have been made by keys with points. -/
def assign (origin : Option Origin) : List Text → Text → Setting → Entries → Option Entries
  | [], key, v, es =>
    if (es.get? key).isSome || (origin.getD .dotted) ≠ .dotted then none
    else some (es.put key (.value v))
  | k :: ks, key, v, es =>
    match es.get? k with
    | none => (assign (some .dotted) ks key v []).map fun below => es.put k (.table .dotted below)
    | some (.table .opened _) => none
    | some (.table o below) =>
      (assign (some o) ks key v below).map fun below => es.put k (.table o below)
    | some (.tables elements) =>
      match elements.reverse with
      | [] => none
      | last :: before =>
        (assign (some .opened) ks key v last).map fun last =>
          es.put k (.tables (before.reverse ++ [last]))
    | some (.value _) => none

def reach (f : Text → Entries → Option Entries) : List Text → Entries → Option Entries
  | [], _ => none
  | [key], es => f key es
  | k :: ks, es =>
    match es.get? k with
    | none => (reach f ks []).map fun below => es.put k (.table .header below)
    | some (.table o below) => (reach f ks below).map fun below => es.put k (.table o below)
    | some (.tables elements) =>
      match elements.reverse with
      | [] => none
      | last :: before =>
        (reach f ks last).map fun last => es.put k (.tables (before.reverse ++ [last]))
    | some (.value _) => none

def opening (key : Text) (es : Entries) : Option Entries :=
  match es.get? key with
  | none => some (es.put key (.table .opened []))
  | some (.table .header below) => some (es.put key (.table .opened below))
  | some _ => none

def adding (key : Text) (es : Entries) : Option Entries :=
  match es.get? key with
  | none => some (es.put key (.tables [[]]))
  | some (.tables elements) => some (es.put key (.tables (elements ++ [[]])))
  | some _ => none

def assignUnder (header : List Text) (names : List Text) (key : Text) (v : Setting) (es : Entries) :
    Option Entries :=
  match header with
  | [] => assign none names key v es
  | _ =>
    reach (fun k es =>
      match es.get? k with
      | some (.table o below) =>
        (assign none names key v below).map fun below => es.put k (.table o below)
      | some (.tables elements) =>
        match elements.reverse with
        | [] => none
        | last :: before =>
          (assign none names key v last).map fun last =>
            es.put k (.tables (before.reverse ++ [last]))
      | _ => none) header es

end Entries

mutual

def Item.setting : Item → Setting
  | .value s => s
  | .table _ entries => .table (entriesSettings entries)
  | .tables elements => .list (elementsSettings elements)

def entriesSettings : List (Text × Item) → Fields
  | [] => []
  | (key, item) :: rest => (key, item.setting) :: entriesSettings rest

def elementsSettings : List (List (Text × Item)) → List Setting
  | [] => []
  | entries :: rest => .table (entriesSettings entries) :: elementsSettings rest

end

def lastName? (names : List Text) : Option (List Text × Text) :=
  match names.reverse with
  | [] => none
  | key :: before => some (before.reverse, key)

mutual

def value? : Nat → Nat → Text → Option (Setting × Text)
  | 0, _, _ => none
  | room + 1, depth, t =>
    match t with
    | [] => none
    | c :: rest =>
      if c = '"' || c = '\'' then (text? t).map fun r => (.text r.1, r.2)
      else if c = '[' then
        if maxNesting ≤ depth then none
        else (items? room (depth + 1) rest).map fun r => (.list r.1, r.2)
      else if c = '\x7b' then
        if maxNesting ≤ depth then none
        else match skipBlanks rest with
          | '\x7d' :: rest => some (.table [], rest)
          | rest =>
            (pairs? room (depth + 1) [] rest).map fun r => (.table (entriesSettings r.1), r.2)
      else if c = 't' then (Text.after? (lit "true") t).map fun rest => (.flag true, rest)
      else if c = 'f' then (Text.after? (lit "false") t).map fun rest => (.flag false, rest)
      else if startsMoment t then moment? t
      else number? t

def items? : Nat → Nat → Text → Option (List Setting × Text)
  | 0, _, _ => none
  | room + 1, depth, t =>
    match skipTrivia? (t.length + 1) t with
    | none => none
    | some (']' :: rest) => some ([], rest)
    | some t =>
      match value? room depth t with
      | none => none
      | some (v, rest) =>
        match skipTrivia? (rest.length + 1) rest with
        | some (',' :: rest) => (items? room depth rest).map fun r => (v :: r.1, r.2)
        | some (']' :: rest) => some ([v], rest)
        | _ => none

def pairs? : Nat → Nat → Entries → Text → Option (Entries × Text)
  | 0, _, _, _ => none
  | room + 1, depth, es, t =>
    match key? t with
    | some (names, '=' :: rest) =>
      match lastName? names, value? room depth (skipBlanks rest) with
      | some (before, key), some (v, rest) =>
        match es.assign none before key v with
        | none => none
        | some es =>
          match skipBlanks rest with
          | ',' :: rest => pairs? room depth es rest
          | '\x7d' :: rest => some (es, rest)
          | _ => none
      | _, _ => none
    | _ => none

end

def endLine? (t : Text) : Option Text :=
  match skipComment? (skipBlanks t) with
  | none => none
  | some [] => some []
  | some rest => afterNewline? rest

def closeHeader? (marks : Text) (t : Text) : Option Text := (Text.after? marks t).bind endLine?

def lines? : Nat → List Text → Entries → Text → Option Entries
  | 0, _, es, t => if t.isEmpty then some es else none
  | room + 1, header, es, t =>
    match skipBlanks t with
    | [] => some es
    | '[' :: '[' :: rest =>
      match key? rest with
      | none => none
      | some (names, rest) =>
        match closeHeader? [']', ']'] rest, Entries.reach Entries.adding names es with
        | some rest, some es => lines? room names es rest
        | _, _ => none
    | '[' :: rest =>
      match key? rest with
      | none => none
      | some (names, rest) =>
        match closeHeader? [']'] rest, Entries.reach Entries.opening names es with
        | some rest, some es => lines? room names es rest
        | _, _ => none
    | t =>
      if t.head? = some '#' || (afterNewline? t).isSome then
        match endLine? t with
        | some rest => lines? room header es rest
        | none => none
      else match key? t with
        | some (names, '=' :: rest) =>
          match lastName? names, value? (2 * rest.length + 2) 0 (skipBlanks rest) with
          | some (before, key), some (v, rest) =>
            match endLine? rest, es.assignUnder header before key v with
            | some rest, some es => lines? room header es rest
            | _, _ => none
          | _, _ => none
        | _ => none

def byteOrderMark : Char := '\uFEFF'

def read? (t : Text) : Option Fields :=
  let t := match t with
    | c :: rest => if c = byteOrderMark then rest else t
    | [] => []
  (lines? (t.length + 1) [] [] t).map entriesSettings

end BookingRetry.Config.Toml
