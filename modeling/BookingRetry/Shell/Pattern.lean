import BookingRetry.Text.Basic

/-!
Patterns of the shell: a star stands for any text, a question mark for any character, and brackets
for one of the characters between them. A character in quotes stands for itself.
-/
namespace BookingRetry.Shell

inductive Glob where
  | any
  | one
  | char (c : Char)
  | oneOf (negated : Bool) (ranges : List (Char × Char))
  deriving DecidableEq, Repr

structure Sign where
  char : Char
  isQuoted : Bool
  deriving DecidableEq, Repr

namespace Glob

def ranges : Nat → Bool → List Sign → Option (List (Char × Char) × List Sign)
  | 0, _, _ => none
  | _ + 1, _, [] => none
  | room + 1, first, s :: ss =>
    if s.char = ']' && !s.isQuoted && !first then some ([], ss)
    else match ss with
      | dash :: last :: rest =>
        if dash.char = '-' && !dash.isQuoted && (last.char ≠ ']' || last.isQuoted) then
          (ranges room false rest).map fun r => ((s.char, last.char) :: r.1, r.2)
        else (ranges room false ss).map fun r => ((s.char, s.char) :: r.1, r.2)
      | _ => (ranges room false ss).map fun r => ((s.char, s.char) :: r.1, r.2)

def bracket? (ss : List Sign) : Option (Glob × List Sign) :=
  match ss with
  | [] => none
  | s :: rest =>
    if (s.char = '!' || s.char = '^') && !s.isQuoted then
      (ranges (rest.length + 1) true rest).map fun r => (.oneOf true r.1, r.2)
    else (ranges (ss.length + 1) true ss).map fun r => (.oneOf false r.1, r.2)

def ofSigns : Nat → List Sign → List Glob
  | 0, _ => []
  | _ + 1, [] => []
  | room + 1, s :: ss =>
    if s.isQuoted then .char s.char :: ofSigns room ss
    else if s.char = '*' then .any :: ofSigns room ss
    else if s.char = '?' then .one :: ofSigns room ss
    else if s.char = '[' then
      match bracket? ss with
      | some (g, rest) => g :: ofSigns room rest
      | none => .char '[' :: ofSigns room ss
    else .char s.char :: ofSigns room ss

def fits : List Glob → Text → Bool
  | [], t => t.isEmpty
  | .any :: gs, t => fitsSomewhere gs t
  | .one :: gs, t =>
    match t with
    | [] => false
    | _ :: cs => fits gs cs
  | .char c :: gs, t =>
    match t with
    | [] => false
    | d :: cs => c = d && fits gs cs
  | .oneOf negated rs :: gs, t =>
    match t with
    | [] => false
    | d :: cs => (rs.any (fun r => r.1 ≤ d && d ≤ r.2) != negated) && fits gs cs
where
  fitsSomewhere (gs : List Glob) : Text → Bool
    | [] => fits gs []
    | c :: cs => fits gs (c :: cs) || fitsSomewhere gs cs

end Glob

def patternOf (ss : List Sign) : List Glob := Glob.ofSigns (ss.length + 1) ss

def cutFront (p : List Glob) (longest : Bool) (t : Text) : Text :=
  let sizes := List.range (t.length + 1)
  match (if longest then sizes.reverse else sizes).find? fun n => Glob.fits p (t.take n) with
  | some n => t.drop n
  | none => t

def cutBack (p : List Glob) (longest : Bool) (t : Text) : Text :=
  let sizes := List.range (t.length + 1)
  match (if longest then sizes else sizes.reverse).find? fun n => Glob.fits p (t.drop n) with
  | some n => t.take n
  | none => t

end BookingRetry.Shell
