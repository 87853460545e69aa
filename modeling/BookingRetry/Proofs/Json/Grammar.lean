import BookingRetry.Json.Reader
import BookingRetry.Proofs.Text.Numeral

/-!
Which texts are JSON, and what each one says. A text says a value whose objects have their members
as they are written, in their order and however often a key stands there. Numbers past the largest
binary one say nothing. Half of a pair of sixteen bits may be written in a string without the other
half, but that is no character; it is left open if something stands for it.
-/
namespace BookingRetry.Json

open Outline (isSpace simpleEscapes hexUnit?)

def Blank (s : Text) : Prop := ∀ c ∈ s, isSpace c = true

theorem blank_nil : Blank [] := List.forall_mem_nil _

def StartsLow (w : Text) : Prop :=
  ∃ a b c d rest, w = '\\' :: 'u' :: a :: b :: c :: d :: rest ∧
    ∃ n, hexUnit? a b c d = some n ∧ isLowHalf n = true

theorem not_startsLow_nil : ¬ StartsLow [] := by
  rintro ⟨_, _, _, _, _, eq, _⟩
  cases eq

/-- A text, and how it may be written between the marks of a string, if `alone` stands for half of a
pair alone. -/
inductive StringText (alone : Option Char) : Text → Text → Prop where
  | nil : StringText alone [] []
  | plain {c : Char} {t w : Text} (mark : c ≠ '"') (escape : c ≠ '\\') (printed : 0x20 ≤ c.toNat)
      (rest : StringText alone t w) : StringText alone (c :: t) (c :: w)
  | simple {e c : Char} {t w : Text} (listed : (e, c) ∈ simpleEscapes)
      (rest : StringText alone t w) : StringText alone (c :: t) ('\\' :: e :: w)
  | unit {a b c d : Char} {n : Nat} {t w : Text} (hex : hexUnit? a b c d = some n)
      (notHigh : isHighHalf n = false) (notLow : isLowHalf n = false)
      (rest : StringText alone t w) :
      StringText alone (Char.ofNat n :: t) ('\\' :: 'u' :: a :: b :: c :: d :: w)
  | pair {a b c d a' b' c' d' : Char} {high low : Nat} {t w : Text}
      (hex : hexUnit? a b c d = some high) (isHigh : isHighHalf high = true)
      (hex' : hexUnit? a' b' c' d' = some low) (isLow : isLowHalf low = true)
      (rest : StringText alone t w) :
      StringText alone (joinedHalves high low :: t)
        ('\\' :: 'u' :: a :: b :: c :: d :: '\\' :: 'u' :: a' :: b' :: c' :: d' :: w)
  | half {a b c d r : Char} {n : Nat} {t w : Text} (hex : hexUnit? a b c d = some n)
      (unpaired : (isHighHalf n = true ∧ ¬ StartsLow w) ∨ isLowHalf n = true)
      (stands : alone = some r) (rest : StringText alone t w) :
      StringText alone (r :: t) ('\\' :: 'u' :: a :: b :: c :: d :: w)

structure Digits (ds : Text) : Prop where
  some : ds ≠ []
  all : ds.all Numeral.isDigit = true

inductive ExponentText : Option (Bool × Text) → Text → Prop where
  | none : ExponentText none []
  | some {mark : Char} {down : Bool} {sign ds : Text} (letter : mark = 'e' ∨ mark = 'E')
      (signed : (down, sign) ∈ [(false, []), (false, ['+']), (true, ['-'])]) (digits : Digits ds) :
      ExponentText (some (down, ds)) (mark :: (sign ++ ds))

structure FigureText (f : Figure) (w : Text) : Prop where
  whole : Digits f.whole
  lead : ∀ ds, f.whole = '0' :: ds → ds = []
  fraction : if f.pointed then Digits f.fraction else f.fraction = []
  written : ∃ e, ExponentText f.exponent e ∧ w = (if f.negative then ['-'] else []) ++
    (f.whole ++ ((if f.pointed then '.' :: f.fraction else []) ++ e))

inductive Part where
  | value (v : Value)
  | items (vs : List Value)
  | members (ms : Members)

/-- What a part of a text says, and how it may be written. -/
inductive Spells (alone : Option Char) : Part → Text → Prop where
  | null : Spells alone (.value .null) (lit "null")
  | true : Spells alone (.value (.bool true)) (lit "true")
  | false : Spells alone (.value (.bool false)) (lit "false")
  | number {f : Figure} {n : Number} {w : Text} (figure : FigureText f w)
      (valued : f.number? = some n) : Spells alone (.value (.number n)) w
  | string {t w : Text} (inside : StringText alone t w) :
      Spells alone (.value (.string t)) ('"' :: (w ++ ['"']))
  | noItems {s : Text} (blank : Blank s) : Spells alone (.value (.array [])) ('[' :: (s ++ [']']))
  | array {vs : List Value} {w : Text} (inside : Spells alone (.items vs) w) :
      Spells alone (.value (.array vs)) ('[' :: (w ++ [']']))
  | noMembers {s : Text} (blank : Blank s) :
      Spells alone (.value (.object [])) ('\x7b' :: (s ++ ['\x7d']))
  | object {ms : Members} {w : Text} (inside : Spells alone (.members ms) w) :
      Spells alone (.value (.object ms)) ('\x7b' :: (w ++ ['\x7d']))
  | lastItem {a w b : Text} {v : Value} (before : Blank a) (value : Spells alone (.value v) w)
      (after : Blank b) : Spells alone (.items [v]) (a ++ (w ++ b))
  | item {a w b ws : Text} {v : Value} {vs : List Value} (before : Blank a)
      (value : Spells alone (.value v) w) (after : Blank b) (rest : Spells alone (.items vs) ws) :
      Spells alone (.items (v :: vs)) (a ++ (w ++ (b ++ ',' :: ws)))
  | lastMember {a k b c w d key : Text} {v : Value} (before : Blank a)
      (name : StringText alone key k) (afterName : Blank b) (beforeValue : Blank c)
      (value : Spells alone (.value v) w) (after : Blank d) :
      Spells alone (.members [(key, v)]) (a ++ '"' :: (k ++ '"' :: (b ++ ':' :: (c ++ (w ++ d)))))
  | member {a k b c w d ws key : Text} {v : Value} {ms : Members} (before : Blank a)
      (name : StringText alone key k) (afterName : Blank b) (beforeValue : Blank c)
      (value : Spells alone (.value v) w) (after : Blank d) (rest : Spells alone (.members ms) ws) :
      Spells alone (.members ((key, v) :: ms))
        (a ++ '"' :: (k ++ '"' :: (b ++ ':' :: (c ++ (w ++ (d ++ ',' :: ws))))))

/-- A text that is JSON, and the value it says if `alone` stands for half of a pair alone. -/
def IsTextWith (alone : Option Char) (v : Value) (t : Text) : Prop :=
  ∃ a w b, Blank a ∧ Spells alone (.value v) w ∧ Blank b ∧ t = a ++ (w ++ b)

/-- A text that is JSON, with no half of a pair alone, and the value it says. -/
abbrev IsText : Value → Text → Prop := IsTextWith none

/-! ### What a part starts with -/

structure Starts (c : Char) : Prop where
  visible : isSpace c = false
  notClosing : c ≠ ']'

theorem starts_digit {c : Char} (digit : Numeral.isDigit c = true) : Starts c where
  visible := by
    cases space : isSpace c with
    | false => rfl
    | true =>
      simp only [isSpace, Bool.or_eq_true, decide_eq_true_eq] at space
      rcases space with ((rfl | rfl) | rfl) | rfl <;> contradiction
  notClosing := by
    rintro rfl
    contradiction

theorem FigureText.starts {f : Figure} {w : Text} (figure : FigureText f w) :
    ∃ c cs, w = c :: cs ∧ Starts c := by
  obtain ⟨e, _, rfl⟩ := figure.written
  obtain ⟨c, cs, whole, digit⟩ := Numeral.digits_start figure.whole.some figure.whole.all
  cases f.negative with
  | true => exact ⟨'-', _, rfl, rfl, by decide⟩
  | false => exact ⟨c, _, by rw [whole]; rfl, starts_digit digit⟩

end BookingRetry.Json
