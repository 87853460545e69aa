import BookingRetry.Proofs.Json.Document
import BookingRetry.Proofs.Json.Layout

/-!
Every text that is laid out as an outline is read as that outline, and if it is a JSON text, the
outline says what the text says. The reading of a value goes as far as its text and no further, if
what follows cannot be a part of a number.
-/
namespace BookingRetry.Json

namespace Outline

/-! ### Blanks -/

theorem skipSpace_blank {s : Text} (blank : Blank s) (t : Text) :
    skipSpace (s ++ t) = skipSpace t :=
  List.dropWhile_append_of_pos blank

theorem skipSpace_visible {c : Char} (visible : isSpace c = false) (t : Text) :
    skipSpace (c :: t) = c :: t := by
  simp [skipSpace, visible]

theorem skipSpace_skipSpace (t : Text) : skipSpace (skipSpace t) = skipSpace t := by
  induction t with
  | nil => rfl
  | cons c cs ih =>
    cases space : isSpace c with
    | true => simpa [skipSpace, space] using ih
    | false => rw [skipSpace_visible space, skipSpace_visible space]

theorem readValue_skipSpace (room : Nat) (t : Text) :
    readValue room (skipSpace t) = readValue room t := by
  cases room with
  | zero => rfl
  | succ room =>
    unfold readValue
    rw [skipSpace_skipSpace]

theorem readItems_skipSpace (room : Nat) (t : Text) :
    readItems room (skipSpace t) = readItems room t := by
  cases room with
  | zero => rfl
  | succ room =>
    unfold readItems
    rw [readValue_skipSpace]

theorem readValue_blank {s : Text} (blank : Blank s) (room : Nat) (t : Text) :
    readValue room (s ++ t) = readValue room t := by
  rw [← readValue_skipSpace, skipSpace_blank blank, readValue_skipSpace]

/-! ### Strings -/

theorem readString_plain {c : Char} (mark : c ≠ '"') (escape : c ≠ '\\')
    (printed : 0x20 ≤ c.toNat) (rest : Text) :
    readString (c :: rest) = Piece.before (.char c) (readString rest) := by
  rw [readString.eq_7 c rest mark (fun slash => absurd slash escape)
    (fun _ slash => absurd slash escape) (fun _ _ slash => absurd slash escape)]
  exact if_neg (Nat.not_lt_of_le printed)

theorem readString_simple {e c : Char} (listed : (e, c) ∈ simpleEscapes) (rest : Text) :
    readString ('\\' :: e :: rest) = Piece.before (.char c) (readString rest) := by
  simp only [simpleEscapes, List.mem_cons, List.not_mem_nil, or_false, Prod.mk.injEq] at listed
  rcases listed with ⟨rfl, rfl⟩ | ⟨rfl, rfl⟩ | ⟨rfl, rfl⟩ | ⟨rfl, rfl⟩ | ⟨rfl, rfl⟩ | ⟨rfl, rfl⟩ |
    ⟨rfl, rfl⟩ | ⟨rfl, rfl⟩ <;> rw [readString.eq_6 _ _ (by decide)] <;> rfl

theorem hasFourBytes_chars (a b c d : Char) (rest : Text) :
    hasFourBytes (a :: b :: c :: d :: rest) = true := by
  have byte : ∀ c : Char, 1 ≤ (Utf8.encodeChar c).length := by
    intro c
    unfold Utf8.encodeChar
    dsimp only
    split
    · exact Nat.le_refl 1
    · split
      · exact Nat.le_add_left 1 1
      · split <;> simp
  have all := Nat.add_le_add (Nat.add_le_add (byte a) (byte b)) (Nat.add_le_add (byte c) (byte d))
  simp only [hasFourBytes, List.take, Utf8.encode, List.flatMap_cons, List.length_append,
    List.flatMap_nil, List.length_nil, decide_eq_true_eq]
  omega

theorem readString_unit {a b c d : Char} {n : Nat} (hex : hexUnit? a b c d = some n) (rest : Text) :
    readString ('\\' :: 'u' :: a :: b :: c :: d :: rest) =
      Piece.before (.unit n) (readString rest) := by
  rw [readString.eq_4, if_pos (hasFourBytes_chars a b c d rest), hex]

theorem readString_text {ps : List Piece} {w : Text} (inside : PiecesText ps w) (rest : Text) :
    readString (w ++ '"' :: rest) = (⟨ps, none⟩, some rest) := by
  induction inside with
  | nil => exact readString.eq_2 rest
  | plain mark escape printed _ ih =>
    rw [List.cons_append, readString_plain mark escape printed, ih]
    rfl
  | simple listed _ ih =>
    rw [List.cons_append, List.cons_append, readString_simple listed, ih]
    rfl
  | unit hex _ ih =>
    simp only [List.cons_append]
    rw [readString_unit hex, ih]
    rfl

/-! ### Numbers -/

/-- No part of a number stands in front. -/
structure Apart (rest : Text) : Prop where
  digit : ∀ c ∈ rest.head?, Numeral.isDigit c = false
  point : ∀ c ∈ rest.head?, c ≠ '.'
  exponent : ∀ c ∈ rest.head?, c ≠ 'e' ∧ c ≠ 'E'

theorem apart_nil : Apart [] := ⟨nofun, nofun, nofun⟩

theorem apart_cons {c : Char} (digit : Numeral.isDigit c = false) (point : c ≠ '.')
    (exponent : c ≠ 'e' ∧ c ≠ 'E') (rest : Text) : Apart (c :: rest) where
  digit := by
    rintro d ⟨⟩
    exact digit
  point := by
    rintro d ⟨⟩
    exact point
  exponent := by
    rintro d ⟨⟩
    exact exponent

theorem apart_blank {s rest : Text} (blank : Blank s) (apart : Apart rest) : Apart (s ++ rest) := by
  cases s with
  | nil => exact apart
  | cons c cs =>
    have space := blank c List.mem_cons_self
    simp only [isSpace, Bool.or_eq_true, decide_eq_true_eq] at space
    rcases space with ((rfl | rfl) | rfl) | rfl <;>
      exact apart_cons rfl (by decide) (by decide) _

theorem digitsOf_append {ds rest : Text} (all : ds.all Numeral.isDigit = true)
    (ends : ∀ c ∈ rest.head?, Numeral.isDigit c = false) :
    digitsOf (ds ++ rest) = ds ∧ afterDigits (ds ++ rest) = rest := by
  have inside : ∀ c ∈ ds, Numeral.isDigit c = true := List.all_eq_true.mp all
  have here : rest.takeWhile Numeral.isDigit = [] ∧ rest.dropWhile Numeral.isDigit = rest := by
    cases rest with
    | nil => exact ⟨rfl, rfl⟩
    | cons c cs => simp [ends c rfl]
  unfold digitsOf afterDigits
  rw [List.takeWhile_append_of_pos inside, List.dropWhile_append_of_pos inside, here.1, here.2]
  exact ⟨List.append_nil ds, rfl⟩

theorem exponent_head {x : Option (Bool × Text)} {e rest : Text} (spells : ExponentText x e)
    (apart : Apart rest) : ∀ c ∈ (e ++ rest).head?, Numeral.isDigit c = false ∧ c ≠ '.' := by
  cases spells with
  | none => exact fun c head => ⟨apart.digit c head, apart.point c head⟩
  | some letter signed digits =>
    intro c head
    cases head
    rcases letter with rfl | rfl <;> decide

theorem readExponent_text {negative pointed : Bool} {whole fraction e rest : Text}
    {x : Option (Bool × Text)} (spells : ExponentText x e) (apart : Apart rest) :
    readExponent ⟨negative, whole, fraction, none, pointed⟩ (e ++ rest) =
      (.number ⟨negative, whole, fraction, x, pointed⟩, some rest) := by
  cases spells with
  | none =>
    cases rest with
    | nil => rfl
    | cons c cs =>
      obtain ⟨small, large⟩ := apart.exponent c rfl
      unfold readExponent
      simp [small, large]
  | @some mark down sign ds letter signed digits =>
    obtain ⟨read, after⟩ := digitsOf_append digits.all apart.digit
    have mark : (decide (mark = 'e') || decide (mark = 'E')) = true := by
      rcases letter with rfl | rfl <;> rfl
    have some : ds.isEmpty = false := by simpa using digits.some
    simp only [List.mem_cons, List.not_mem_nil, or_false, Prod.mk.injEq] at signed
    rcases signed with ⟨rfl, rfl⟩ | ⟨rfl, rfl⟩ | ⟨rfl, rfl⟩
    · obtain ⟨c, cs, rfl, digit⟩ := Numeral.digits_start digits.some digits.all
      have notPlus : ∀ more, c :: cs ++ rest = '+' :: more → False := by
        intro more same
        cases same
        contradiction
      have notMinus : ∀ more, c :: cs ++ rest = '-' :: more → False := by
        intro more same
        cases same
        contradiction
      rw [List.nil_append, List.cons_append, readExponent.eq_3 _ _ _ notPlus notMinus, if_pos mark]
      simp only [read, after, some]
      rfl
    · rw [List.cons_append, List.cons_append, List.cons_append, readExponent.eq_1, if_pos mark]
      simp only [List.nil_append, read, after, some]
      rfl
    · rw [List.cons_append, List.cons_append, List.cons_append, readExponent.eq_2, if_pos mark]
      simp only [List.nil_append, read, after, some]
      rfl

theorem readNumber_text {f : Figure} {e rest : Text} (whole : Digits f.whole)
    (lead : ∀ ds, f.whole = '0' :: ds → ds = [])
    (fraction : if f.pointed then Digits f.fraction else f.fraction = [])
    (spells : ExponentText f.exponent e) (apart : Apart rest) :
    readNumber f.negative
      (f.whole ++ ((if f.pointed then '.' :: f.fraction else []) ++ e) ++ rest) =
      (.number f, some rest) := by
  obtain ⟨negative, ds, fs, x, pointed⟩ := f
  dsimp only at *
  have head := exponent_head spells apart
  have tail : ∀ c ∈ ((if pointed then '.' :: fs else []) ++ e ++ rest).head?,
      Numeral.isDigit c = false := by
    cases pointed with
    | true =>
      intro c same
      cases same
      rfl
    | false => exact fun c same => (head c same).1
  obtain ⟨read, after⟩ := digitsOf_append whole.all tail
  rw [List.append_assoc ds, readNumber.eq_1, read, after]
  split
  · exact absurd rfl whole.some
  · have single := lead _ rfl
    contradiction
  cases pointed with
  | true =>
    rw [if_pos rfl] at fraction ⊢
    obtain ⟨read, after⟩ := digitsOf_append fraction.all fun c same => (head c same).1
    have some : fs.isEmpty = false := by simpa using fraction.some
    simp only [List.cons_append, List.append_assoc, read, after, some]
    exact readExponent_text spells apart
  | false =>
    rw [if_neg Bool.false_ne_true] at fraction ⊢
    rw [fraction, List.nil_append]
    split
    · rename_i more same
      exact absurd rfl (head '.' (by rw [same]; rfl)).2
    · exact readExponent_text spells apart

/-! ### One step into a value -/

theorem readWord_append (value : Outline) (ws rest : Text) :
    readWord value ws (ws ++ rest) = (value, some rest) := by
  induction ws with
  | nil => rfl
  | cons w ws ih => simpa [readWord] using ih

variable {room : Nat} {t rest : Text}

theorem readValue_number {f : Figure} {w : Text} (figure : FigureText f w) (apart : Apart rest) :
    readValue (room + 1) (w ++ rest) = (.number f, some rest) := by
  obtain ⟨e, spells, rfl⟩ := figure.written
  have read := readNumber_text figure.whole figure.lead figure.fraction spells apart
  cases sign : f.negative with
  | true =>
    rw [sign] at read
    unfold readValue
    rw [if_pos rfl, List.cons_append, List.nil_append, List.cons_append, skipSpace_visible rfl]
    exact read
  | false =>
    rw [sign] at read
    obtain ⟨c, cs, eq, digit⟩ := Numeral.digits_start figure.whole.some figure.whole.all
    have word : c ≠ 'n' ∧ c ≠ 't' ∧ c ≠ 'f' ∧ c ≠ '"' ∧ c ≠ '-' := by
      refine ⟨?_, ?_, ?_, ?_, ?_⟩ <;> rintro rfl <;> contradiction
    obtain ⟨n, t, f, mark, minus⟩ := word
    rw [if_neg Bool.false_ne_true, List.nil_append]
    rw [eq] at read ⊢
    unfold readValue
    rw [List.cons_append, List.cons_append, skipSpace_visible (starts_digit digit).visible]
    dsimp only
    rw [if_neg n, if_neg t, if_neg f, if_neg mark, if_neg minus, if_pos digit]
    exact read

theorem readValue_string {q : Quoted} (read : readString t = (q, some rest)) :
    readValue (room + 1) ('"' :: t) = (.string q, some rest) := by
  unfold readValue
  rw [skipSpace_visible rfl]
  simp [read]

theorem readValue_open (t : Text) : readValue (room + 1) ('[' :: t) =
    match skipSpace t with
    | ']' :: rest => (.array [] none, some rest)
    | [] => (.array [] (some .ended), none)
    | rest =>
      (.array (readItems room rest).1.1 (readItems room rest).1.2, (readItems room rest).2) := by
  unfold readValue
  rw [skipSpace_visible rfl]
  rfl

theorem readValue_noItems {s : Text} (blank : Blank s) :
    readValue (room + 1) ('[' :: (s ++ ']' :: rest)) = (.array [] none, some rest) := by
  rw [readValue_open, skipSpace_blank blank, skipSpace_visible rfl]
  rfl

theorem readValue_array {c : Char} {cs : Text} {os : List Outline}
    (skipped : skipSpace t = c :: cs) (starts : Starts c)
    (read : readItems room t = ((os, none), some rest)) :
    readValue (room + 1) ('[' :: t) = (.array os none, some rest) := by
  rw [← readItems_skipSpace, skipped] at read
  rw [readValue_open, skipped]
  split
  · rename_i same
    cases same
    exact absurd rfl starts.notClosing
  · contradiction
  · rw [read]

theorem readValue_brace (t : Text) : readValue (room + 1) ('\x7b' :: t) =
    match skipSpace t with
    | '\x7d' :: rest => (.object [] none, some rest)
    | '"' :: rest =>
      (.object (readMembers room rest).1.1 (readMembers room rest).1.2, (readMembers room rest).2)
    | rest => (.object [] (some (faultAt rest)), none) := by
  unfold readValue
  rw [skipSpace_visible rfl]
  rfl

theorem readValue_noMembers {s : Text} (blank : Blank s) :
    readValue (room + 1) ('\x7b' :: (s ++ '\x7d' :: rest)) = (.object [] none, some rest) := by
  rw [readValue_brace, skipSpace_blank blank, skipSpace_visible rfl]
  rfl

theorem readValue_object {cs : Text} {os : List (Quoted × Outline)}
    (skipped : skipSpace t = '"' :: cs) (read : readMembers room cs = ((os, none), some rest)) :
    readValue (room + 1) ('\x7b' :: t) = (.object os none, some rest) := by
  rw [readValue_brace, skipped]
  show (Outline.object (readMembers room cs).1.1 (readMembers room cs).1.2, _) = _
  rw [read]

/-! ### One step into items and members -/

variable {o : Outline} {r : Text}

theorem readItems_last (value : readValue room t = (o, some r))
    (closes : skipSpace r = ']' :: rest) :
    readItems (room + 1) t = (([o], none), some rest) := by
  simp only [readItems, value, closes]

theorem readItems_more {r' cs : Text} {c : Char} {os : List Outline}
    (value : readValue room t = (o, some r)) (more : skipSpace r = ',' :: r')
    (skipped : skipSpace r' = c :: cs) (starts : Starts c)
    (read : readItems room r' = ((os, none), some rest)) :
    readItems (room + 1) t = ((o :: os, none), some rest) := by
  rw [← readItems_skipSpace, skipped] at read
  simp only [readItems, value, more, skipped]
  split
  · rename_i same
    cases same
    exact absurd rfl starts.notClosing
  · rw [read]

variable {q : Quoted} {named called : Text}

theorem readMembers_last (name : readString t = (q, some named))
    (colon : skipSpace named = ':' :: called) (value : readValue room called = (o, some r))
    (closes : skipSpace r = '\x7d' :: rest) :
    readMembers (room + 1) t = (([(q, o)], none), some rest) := by
  simp only [readMembers, name, colon, value, closes]

theorem readMembers_more {r' cs : Text} {os : List (Quoted × Outline)}
    (name : readString t = (q, some named)) (colon : skipSpace named = ':' :: called)
    (value : readValue room called = (o, some r)) (more : skipSpace r = ',' :: r')
    (skipped : skipSpace r' = '"' :: cs) (read : readMembers room cs = ((os, none), some rest)) :
    readMembers (room + 1) t = (((q, o) :: os, none), some rest) := by
  simp only [readMembers, name, colon, value, more, skipped, read]

/-! ### Every text -/

/-- What is read where a part of a text stands, given the room for it. Each value and each item
takes one step of room, and has a character of its own. -/
def Reads : Part → Text → Prop
  | .value o, w => ∀ room rest, 2 * w.length ≤ room → Apart rest →
    readValue room (w ++ rest) = (o, some rest)
  | .items os, w => ∀ room rest, 2 * w.length + 1 ≤ room →
    readItems room (w ++ ']' :: rest) = ((os, none), some rest)
  | .members ms, w => ∀ room rest, 2 * w.length + 1 ≤ room →
    ∃ cs, skipSpace (w ++ '\x7d' :: rest) = '"' :: cs ∧
      readMembers room cs = ((ms, none), some rest)

theorem reads_leaf {o : Outline} {w : Text} (nonempty : w ≠ [])
    (read : ∀ room rest, Apart rest → readValue (room + 1) (w ++ rest) = (o, some rest)) :
    Reads (.value o) w := by
  intro room rest enough apart
  have length := List.length_pos_iff.mpr nonempty
  cases room with
  | zero => omega
  | succ room => exact read room rest apart

theorem skipSpace_items {os : List Outline} {w : Text} (inside : Laid (.items os) w)
    (rest : Text) : ∃ c cs, skipSpace (w ++ rest) = c :: cs ∧ Starts c := by
  obtain ⟨a, c, cs, before, rfl, starts⟩ := items_starts inside
  refine ⟨c, cs ++ rest, ?_, starts⟩
  rw [List.append_assoc, skipSpace_blank before, List.cons_append, skipSpace_visible starts.visible]

theorem reads_array {os : List Outline} {w : Text} (inside : Laid (.items os) w)
    (items : Reads (.items os) w) : Reads (.value (.array os none)) ('[' :: (w ++ [']'])) := by
  intro room rest enough _
  simp only [List.length_cons, List.length_append, List.length_nil] at enough
  cases room with
  | zero => omega
  | succ room =>
    obtain ⟨c, cs, skipped, starts⟩ := skipSpace_items inside (']' :: rest)
    have step := readValue_array skipped starts (items room rest (by omega))
    simpa using step

theorem reads_object {ms : List (Quoted × Outline)} {w : Text} (members : Reads (.members ms) w) :
    Reads (.value (.object ms none)) ('\x7b' :: (w ++ ['\x7d'])) := by
  intro room rest enough _
  simp only [List.length_cons, List.length_append, List.length_nil] at enough
  cases room with
  | zero => omega
  | succ room =>
    obtain ⟨cs, skipped, read⟩ := members room rest (by omega)
    have step := readValue_object skipped read
    simpa using step

theorem reads_lastItem {a w b : Text} {o : Outline} (before : Blank a) (value : Reads (.value o) w)
    (after : Blank b) : Reads (.items [o]) (a ++ (w ++ b)) := by
  intro room rest enough
  simp only [List.length_append] at enough
  cases room with
  | zero => omega
  | succ room =>
    have read := value room (b ++ ']' :: rest) (by omega)
      (apart_blank after (apart_cons rfl (by decide) (by decide) rest))
    have step := @readItems_last room (a ++ (w ++ (b ++ ']' :: rest))) rest o (b ++ ']' :: rest)
      (by rw [readValue_blank before, read]) (by rw [skipSpace_blank after, skipSpace_visible rfl])
    simpa using step

theorem reads_item {a w b ws : Text} {o : Outline} {os : List Outline} (before : Blank a)
    (value : Reads (.value o) w) (after : Blank b) (others : Laid (.items os) ws)
    (items : Reads (.items os) ws) : Reads (.items (o :: os)) (a ++ (w ++ (b ++ ',' :: ws))) := by
  intro room rest enough
  simp only [List.length_append, List.length_cons] at enough
  cases room with
  | zero => omega
  | succ room =>
    have read := value room (b ++ ',' :: (ws ++ ']' :: rest)) (by omega)
      (apart_blank after (apart_cons rfl (by decide) (by decide) _))
    obtain ⟨c, cs, skipped, starts⟩ := skipSpace_items others (']' :: rest)
    have first : readValue room (a ++ (w ++ (b ++ ',' :: (ws ++ ']' :: rest)))) =
        (o, some (b ++ ',' :: (ws ++ ']' :: rest))) := by
      rw [readValue_blank before, read]
    have comma : skipSpace (b ++ ',' :: (ws ++ ']' :: rest)) = ',' :: (ws ++ ']' :: rest) := by
      rw [skipSpace_blank after, skipSpace_visible rfl]
    have step := readItems_more first comma skipped starts (items room rest (by omega))
    simpa using step

theorem reads_lastMember {a k b c w d : Text} {key : List Piece} {o : Outline} (before : Blank a)
    (name : PiecesText key k) (afterName : Blank b) (beforeValue : Blank c)
    (value : Reads (.value o) w) (after : Blank d) :
    Reads (.members [(⟨key, none⟩, o)])
      (a ++ '"' :: (k ++ '"' :: (b ++ ':' :: (c ++ (w ++ d))))) := by
  intro room rest enough
  simp only [List.length_append, List.length_cons] at enough
  cases room with
  | zero => omega
  | succ room =>
    have read := value room (d ++ '\x7d' :: rest) (by omega)
      (apart_blank after (apart_cons rfl (by decide) (by decide) rest))
    have readName := readString_text name (b ++ ':' :: (c ++ (w ++ (d ++ '\x7d' :: rest))))
    refine ⟨_, ?_, readMembers_last readName
      (by rw [skipSpace_blank afterName, skipSpace_visible rfl])
      (by rw [readValue_blank beforeValue, read])
      (by rw [skipSpace_blank after, skipSpace_visible rfl])⟩
    rw [List.append_assoc, skipSpace_blank before, List.cons_append, skipSpace_visible rfl]
    simp

theorem reads_member {a k b c w d ws : Text} {key : List Piece} {o : Outline}
    {ms : List (Quoted × Outline)} (before : Blank a) (name : PiecesText key k)
    (afterName : Blank b) (beforeValue : Blank c) (value : Reads (.value o) w) (after : Blank d)
    (members : Reads (.members ms) ws) :
    Reads (.members ((⟨key, none⟩, o) :: ms))
      (a ++ '"' :: (k ++ '"' :: (b ++ ':' :: (c ++ (w ++ (d ++ ',' :: ws)))))) := by
  intro room rest enough
  simp only [List.length_append, List.length_cons] at enough
  cases room with
  | zero => omega
  | succ room =>
    have read := value room (d ++ ',' :: (ws ++ '\x7d' :: rest)) (by omega)
      (apart_blank after (apart_cons rfl (by decide) (by decide) _))
    obtain ⟨cs, skipped, readMore⟩ := members room rest (by omega)
    have readName :=
      readString_text name (b ++ ':' :: (c ++ (w ++ (d ++ ',' :: (ws ++ '\x7d' :: rest)))))
    refine ⟨_, ?_, readMembers_more readName
      (by rw [skipSpace_blank afterName, skipSpace_visible rfl])
      (by rw [readValue_blank beforeValue, read])
      (by rw [skipSpace_blank after, skipSpace_visible rfl]) skipped readMore⟩
    rw [List.append_assoc, skipSpace_blank before, List.cons_append, skipSpace_visible rfl]
    simp

/-- A part of a text is read as what it is laid out as. -/
theorem reads_of_laid {p : Part} {w : Text} (laid : Laid p w) : Reads p w := by
  induction laid with
  | null =>
    apply reads_leaf (by decide)
    intro room rest _
    exact readWord_append .null (lit "ull") rest
  | true =>
    apply reads_leaf (by decide)
    intro room rest _
    exact readWord_append (.bool true) (lit "rue") rest
  | false =>
    apply reads_leaf (by decide)
    intro room rest _
    exact readWord_append (.bool false) (lit "alse") rest
  | number figure =>
    obtain ⟨c, cs, eq, _⟩ := figure.starts
    apply reads_leaf (by simp [eq])
    intro room rest apart
    exact readValue_number figure apart
  | @string ps w inside =>
    apply reads_leaf (by simp)
    intro room rest _
    have step := @readValue_string room _ rest _ (readString_text inside rest)
    simpa using step
  | @noItems s blank =>
    apply reads_leaf (by simp)
    intro room rest _
    have step := @readValue_noItems room rest s blank
    simpa using step
  | @noMembers s blank =>
    apply reads_leaf (by simp)
    intro room rest _
    have step := @readValue_noMembers room rest s blank
    simpa using step
  | array inside items => exact reads_array inside items
  | object inside members => exact reads_object members
  | lastItem before _ after value => exact reads_lastItem before value after
  | item before _ after others value items => exact reads_item before value after others items
  | lastMember before name afterName beforeValue _ after value =>
    exact reads_lastMember before name afterName beforeValue value after
  | member before name afterName beforeValue _ after _ value members =>
    exact reads_member before name afterName beforeValue value after members

theorem ofText_laidOut {o : Outline} {t : Text} (laid : LaidOut o t) :
    Document.ofText t = ⟨o, false⟩ := by
  obtain ⟨a, w, b, before, value, after, rfl⟩ := laid
  have apart : Apart b := by
    have ends := apart_blank after apart_nil
    rwa [List.append_nil] at ends
  have read := reads_of_laid value (2 * (a ++ (w ++ b)).length + 2) b
    (by simp only [List.length_append]; omega) apart
  have whole : readValue (2 * (a ++ (w ++ b)).length + 2) (a ++ (w ++ b)) = (o, some b) := by
    rw [readValue_blank before, read]
  have ends : skipSpace b = [] := by
    have skipped := skipSpace_blank after []
    rwa [List.append_nil] at skipped
  unfold Document.ofText
  rw [whole]
  simp [ends]

/-! ### Texts that say a value -/

theorem spelled_unit {n : Nat} (notHigh : isHighHalf n = false) (notLow : isLowHalf n = false)
    (ps : List Piece) :
    spelled none (.unit n :: ps) = (spelled none ps).map (Char.ofNat n :: ·) := by
  cases ps with
  | nil => simp [spelled, notHigh, notLow]
  | cons p ps => cases p <;> simp [spelled, notHigh, notLow]

theorem notLow_of_high {n : Nat} (isHigh : isHighHalf n = true) : isLowHalf n = false := by
  simp only [isHighHalf, isLowHalf, Bool.and_eq_true, decide_eq_true_eq, Bool.and_eq_false_iff,
    decide_eq_false_iff_not] at *
  omega

theorem pieces_of_text {t w : Text} (inside : StringText none t w) :
    ∃ ps, PiecesText ps w ∧ spelled none ps = .ok t := by
  induction inside with
  | nil => exact ⟨[], .nil, rfl⟩
  | @plain c t w mark escape printed _ ih =>
    obtain ⟨ps, pieces, spells⟩ := ih
    refine ⟨.char c :: ps, .plain mark escape printed pieces, ?_⟩
    rw [spelled, spells]
    rfl
  | @simple e c t w listed _ ih =>
    obtain ⟨ps, pieces, spells⟩ := ih
    refine ⟨.char c :: ps, .simple listed pieces, ?_⟩
    rw [spelled, spells]
    rfl
  | @unit a b c d n t w hex notHigh notLow _ ih =>
    obtain ⟨ps, pieces, spells⟩ := ih
    refine ⟨.unit n :: ps, .unit hex pieces, ?_⟩
    rw [spelled_unit notHigh notLow, spells]
    rfl
  | @pair a b c d a' b' c' d' high low t w hex isHigh hex' isLow _ ih =>
    obtain ⟨ps, pieces, spells⟩ := ih
    refine ⟨.unit high :: .unit low :: ps, .unit hex (.unit hex' pieces), ?_⟩
    simp [spelled, notLow_of_high isHigh, isHigh, isLow, spells, Except.map]
  | half _ _ stands => contradiction

def Outlined : Json.Part → Text → Prop
  | .value v, w => ∃ o, Laid (.value o) w ∧ o.said? = some v
  | .items vs, w => ∃ os, Laid (.items os) w ∧ saidItems? os = some vs
  | .members ms, w => ∃ os, Laid (.members os) w ∧ saidMembers? os = some ms

theorem outlined_of_spells {p : Json.Part} {w : Text} (spells : Spells none p w) :
    Outlined p w := by
  induction spells with
  | null => exact ⟨.null, .null, rfl⟩
  | true => exact ⟨.bool true, .true, rfl⟩
  | false => exact ⟨.bool false, .false, rfl⟩
  | @number f n w figure valued => exact ⟨.number f, .number figure, by simp [said?, valued]⟩
  | string inside =>
    obtain ⟨ps, pieces, spells⟩ := pieces_of_text inside
    exact ⟨_, .string pieces, by simp [said?, Quoted.text, spells, Except.toOption]⟩
  | noItems blank => exact ⟨_, .noItems blank, rfl⟩
  | noMembers blank => exact ⟨_, .noMembers blank, rfl⟩
  | array _ items =>
    obtain ⟨os, laid, said⟩ := items
    exact ⟨_, .array laid, by simp [said?, said]⟩
  | object _ members =>
    obtain ⟨os, laid, said⟩ := members
    exact ⟨_, .object laid, by simp [said?, said]⟩
  | lastItem before _ after value =>
    obtain ⟨o, laid, said⟩ := value
    exact ⟨_, .lastItem before laid after, by simp [saidItems?, said]⟩
  | item before _ after _ value items =>
    obtain ⟨o, laid, said⟩ := value
    obtain ⟨os, laidMore, saidMore⟩ := items
    exact ⟨_, .item before laid after laidMore, by simp [saidItems?, said, saidMore]⟩
  | lastMember before name afterName beforeValue _ after value =>
    obtain ⟨o, laid, said⟩ := value
    obtain ⟨ps, pieces, spells⟩ := pieces_of_text name
    refine ⟨_, .lastMember before pieces afterName beforeValue laid after, ?_⟩
    simp [saidMembers?, said, Quoted.text, spells, Except.toOption]
  | member before name afterName beforeValue _ after _ value members =>
    obtain ⟨o, laid, said⟩ := value
    obtain ⟨os, laidMore, saidMore⟩ := members
    obtain ⟨ps, pieces, spells⟩ := pieces_of_text name
    refine ⟨_, .member before pieces afterName beforeValue laid after laidMore, ?_⟩
    simp [saidMembers?, said, saidMore, Quoted.text, spells, Except.toOption]

end Outline

/-- A JSON text is read to its end, and its outline says what it says. -/
theorem ofText_isText {v : Value} {t : Text} (text : IsText v t) :
    (Document.ofText t).outline.said? = some v ∧ (Document.ofText t).trailing = false := by
  obtain ⟨a, w, b, before, value, after, rfl⟩ := text
  obtain ⟨o, laid, said⟩ := Outline.outlined_of_spells value
  rw [Outline.ofText_laidOut ⟨a, w, b, before, laid, after, rfl⟩]
  exact ⟨said, rfl⟩

end BookingRetry.Json
