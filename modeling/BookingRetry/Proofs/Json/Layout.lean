import BookingRetry.Proofs.Json.Grammar

/-!
Which texts are laid out as an outline says, whatever its strings and numbers are read as. Blanks
may stand between the marks; each text has one outline only, and many texts have the same one.
-/
namespace BookingRetry.Json.Outline

inductive PiecesText : List Piece → Text → Prop where
  | nil : PiecesText [] []
  | plain {c : Char} {ps : List Piece} {w : Text} (mark : c ≠ '"') (escape : c ≠ '\\')
      (printed : 0x20 ≤ c.toNat) (rest : PiecesText ps w) : PiecesText (.char c :: ps) (c :: w)
  | simple {e c : Char} {ps : List Piece} {w : Text} (listed : (e, c) ∈ simpleEscapes)
      (rest : PiecesText ps w) : PiecesText (.char c :: ps) ('\\' :: e :: w)
  | unit {a b c d : Char} {n : Nat} {ps : List Piece} {w : Text} (hex : hexUnit? a b c d = some n)
      (rest : PiecesText ps w) :
      PiecesText (.unit n :: ps) ('\\' :: 'u' :: a :: b :: c :: d :: w)

inductive Part where
  | value (o : Outline)
  | items (os : List Outline)
  | members (ms : List (Quoted × Outline))

/-- A part of an outline, and how it may be laid out. -/
inductive Laid : Part → Text → Prop where
  | null : Laid (.value .null) (lit "null")
  | true : Laid (.value (.bool true)) (lit "true")
  | false : Laid (.value (.bool false)) (lit "false")
  | number {f : Figure} {w : Text} (figure : FigureText f w) : Laid (.value (.number f)) w
  | string {ps : List Piece} {w : Text} (inside : PiecesText ps w) :
      Laid (.value (.string ⟨ps, none⟩)) ('"' :: (w ++ ['"']))
  | noItems {s : Text} (blank : Blank s) : Laid (.value (.array [] none)) ('[' :: (s ++ [']']))
  | array {os : List Outline} {w : Text} (inside : Laid (.items os) w) :
      Laid (.value (.array os none)) ('[' :: (w ++ [']']))
  | noMembers {s : Text} (blank : Blank s) :
      Laid (.value (.object [] none)) ('\x7b' :: (s ++ ['\x7d']))
  | object {ms : List (Quoted × Outline)} {w : Text} (inside : Laid (.members ms) w) :
      Laid (.value (.object ms none)) ('\x7b' :: (w ++ ['\x7d']))
  | lastItem {a w b : Text} {o : Outline} (before : Blank a) (value : Laid (.value o) w)
      (after : Blank b) : Laid (.items [o]) (a ++ (w ++ b))
  | item {a w b ws : Text} {o : Outline} {os : List Outline} (before : Blank a)
      (value : Laid (.value o) w) (after : Blank b) (rest : Laid (.items os) ws) :
      Laid (.items (o :: os)) (a ++ (w ++ (b ++ ',' :: ws)))
  | lastMember {a k b c w d : Text} {key : List Piece} {o : Outline} (before : Blank a)
      (name : PiecesText key k) (afterName : Blank b) (beforeValue : Blank c)
      (value : Laid (.value o) w) (after : Blank d) :
      Laid (.members [(⟨key, none⟩, o)]) (a ++ '"' :: (k ++ '"' :: (b ++ ':' :: (c ++ (w ++ d)))))
  | member {a k b c w d ws : Text} {key : List Piece} {o : Outline}
      {ms : List (Quoted × Outline)} (before : Blank a) (name : PiecesText key k)
      (afterName : Blank b) (beforeValue : Blank c) (value : Laid (.value o) w) (after : Blank d)
      (rest : Laid (.members ms) ws) :
      Laid (.members ((⟨key, none⟩, o) :: ms))
        (a ++ '"' :: (k ++ '"' :: (b ++ ':' :: (c ++ (w ++ (d ++ ',' :: ws))))))

/-- A text that is laid out as an outline, with blanks around it. -/
def LaidOut (o : Outline) (t : Text) : Prop :=
  ∃ a w b, Blank a ∧ Laid (.value o) w ∧ Blank b ∧ t = a ++ (w ++ b)

theorem value_starts {o : Outline} {w : Text} (laid : Laid (.value o) w) :
    ∃ c cs, w = c :: cs ∧ Starts c := by
  cases laid with
  | number figure => exact figure.starts
  | null | true | false | string | noItems | array | noMembers | object =>
    exact ⟨_, _, rfl, rfl, by decide⟩

theorem items_starts {os : List Outline} {w : Text} (laid : Laid (.items os) w) :
    ∃ a c cs, Blank a ∧ w = a ++ c :: cs ∧ Starts c := by
  cases laid with
  | @lastItem a w b o before value after =>
    obtain ⟨c, cs, rfl, starts⟩ := value_starts value
    exact ⟨a, c, _, before, rfl, starts⟩
  | @item a w b ws o os before value after rest =>
    obtain ⟨c, cs, rfl, starts⟩ := value_starts value
    exact ⟨a, c, _, before, rfl, starts⟩

end BookingRetry.Json.Outline
