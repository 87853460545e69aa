/-!
Texts are lists of characters. What is asked of them here is how they start and end, where they are
cut, what they contain, which blanks stand around them (the 25 characters of the property
White_Space), and what their lines are. A line ends at a line feed, and one carriage return before
that line feed belongs to the line end. A text folded into one line joins its lines, trimmed, by a
slash.
-/
namespace BookingRetry

abbrev Text := List Char

abbrev Bytes := List UInt8

def lit (s : String) : Text := s.toList

namespace Text

def after? : Text → Text → Option Text
  | [], t => some t
  | _ :: _, [] => none
  | o :: os, c :: cs => if o = c then after? os cs else none

def before? (closing t : Text) : Option Text :=
  (after? closing.reverse t.reverse).map List.reverse

def cut? (mark : Text) : Text → Option (Text × Text)
  | [] => if mark = [] then some ([], []) else none
  | c :: cs =>
    match after? mark (c :: cs) with
    | some rest => some ([], rest)
    | none => (cut? mark cs).map fun sides => (c :: sides.1, sides.2)

def hasPart (part : Text) : Text → Bool
  | [] => part.isEmpty
  | c :: cs => (after? part (c :: cs)).isSome || hasPart part cs

def pieces (sep : Char) : Text → List Text
  | [] => [[]]
  | c :: cs =>
    if c = sep then [] :: pieces sep cs
    else match pieces sep cs with
      | [] => [[c]]
      | p :: ps => (c :: p) :: ps

def joined (sep : Text) : List Text → Text
  | [] => []
  | [t] => t
  | t :: u :: ts => t ++ sep ++ joined sep (u :: ts)

/-- Every occurrence of `old`, found from the left without overlaps, becomes `new`.
An empty `old` changes nothing. -/
def replaced (old new : Text) (t : Text) : Text :=
  go t.length t
where
  go : Nat → Text → Text
    | 0, t => t
    | _ + 1, [] => []
    | room + 1, c :: cs =>
      match old, after? old (c :: cs) with
      | _ :: _, some rest => new ++ go room rest
      | _, _ => c :: go room cs

end Text

end BookingRetry

namespace BookingRetry.Text

def blankRanges : List (Nat × Nat) :=
  [(0x09, 0x0D), (0x20, 0x20), (0x85, 0x85), (0xA0, 0xA0), (0x1680, 0x1680), (0x2000, 0x200A),
   (0x2028, 0x2029), (0x202F, 0x202F), (0x205F, 0x205F), (0x3000, 0x3000)]

def isBlankChar (c : Char) : Bool := blankRanges.any fun r => r.1 ≤ c.toNat && c.toNat ≤ r.2

def trimStart (t : Text) : Text := t.dropWhile isBlankChar

def trimEnd (t : Text) : Text := (t.reverse.dropWhile isBlankChar).reverse

def trim (t : Text) : Text := trimEnd (trimStart t)

def isBlank (t : Text) : Bool := t.all isBlankChar

def withoutReturn (line : Text) : Text :=
  match line.reverse with
  | '\r' :: rest => rest.reverse
  | _ => line

def splitLines : Text → List Text × Text
  | [] => ([], [])
  | c :: cs =>
    let rest := splitLines cs
    if c = '\n' then ([] :: rest.1, rest.2)
    else match rest.1 with
      | [] => ([], c :: rest.2)
      | l :: ls => ((c :: l) :: ls, rest.2)

def lines (t : Text) : List Text :=
  let parts := splitLines t
  parts.1.map withoutReturn ++ (if parts.2.isEmpty then [] else [parts.2])

def slash : Text := lit " / "

/-- The text on one line: unchanged if it has no line break, else its lines without outer
blanks, the empty ones left out, joined by a slash. -/
def folded (t : Text) : Text :=
  if t.contains '\n' || t.contains '\r' then
    joined slash ((lines t).map trim |>.filter fun l => !l.isEmpty)
  else t

end BookingRetry.Text
