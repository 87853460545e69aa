import BookingRetry.Config.Toml.Document
import BookingRetry.Proofs.Text.Utf8

/-!
A document that gives one key a text. Every text can be spelled in a document, and whatever its
spelling, the text is read back as it is.
-/
namespace BookingRetry.Config.Toml

/-! ### Spelling a text -/

def hexText : Nat → Nat → Text
  | 0, _ => []
  | count + 1, n => Numeral.hexDigit (n / Nat.pow 16 count % 16) :: hexText count n

def numbered (t : Text) : Text := t.flatMap fun c => '\\' :: 'U' :: hexText 8 c.toNat

def quoted (t : Text) : Text := '"' :: (numbered t ++ ['"'])

theorem hexValue?_hexDigit : ∀ d < 16, Numeral.hexValue? (Numeral.hexDigit d) = some d := by decide

theorem hexText_length (count n : Nat) : (hexText count n).length = count := by
  induction count with
  | zero => rfl
  | succ count ih => rw [hexText, List.length_cons, ih]

theorem hexDigits?_hexText (count n before : Nat) : hexDigits? before (hexText count n) =
    some (before * Nat.pow 16 count + n % Nat.pow 16 count) := by
  induction count generalizing before with
  | zero => simp [hexText, hexDigits?, Nat.mod_one]
  | succ count ih =>
    have digit := hexValue?_hexDigit (n / Nat.pow 16 count % 16) (Nat.mod_lt _ (by decide))
    have split : n % Nat.pow 16 (count + 1) =
        n % Nat.pow 16 count + Nat.pow 16 count * (n / Nat.pow 16 count % 16) := Nat.mod_mul
    simp only [hexText, hexDigits?, digit, ih, split]
    have place : Nat.pow 16 (count + 1) = Nat.pow 16 count * 16 := rfl
    rw [place, Nat.add_mul, Nat.add_assoc, Nat.mul_assoc, Nat.mul_comm 16,
      Nat.mul_comm (n / Nat.pow 16 count % 16), Nat.add_comm (n % Nat.pow 16 count)]

theorem scalar?_toNat (c : Char) : scalar? c.toNat = some c := by
  have range := Utf8.char_range c
  unfold scalar?
  rw [if_pos (by simp; omega), Char.ofNat_toNat]

theorem numbered?_hexText (c : Char) (rest : Text) :
    numbered? 8 (hexText 8 c.toNat ++ rest) = some (c, rest) := by
  have size := hexText_length 8 c.toNat
  have range := Utf8.char_range c
  have small : c.toNat % Nat.pow 16 8 = c.toNat := by
    apply Nat.mod_eq_of_lt
    have most : Nat.pow 16 8 = 4294967296 := by decide
    omega
  have front : (hexText 8 c.toNat ++ rest).take 8 = hexText 8 c.toNat := by
    rw [List.take_append_of_le_length (by omega), List.take_of_length_le (by omega)]
  have back : (hexText 8 c.toNat ++ rest).drop 8 = rest := by
    rw [List.drop_append_of_le_length (by omega), List.drop_of_length_le (by omega),
      List.nil_append]
  unfold numbered?
  rw [front, back, if_pos size, hexDigits?_hexText, small, Nat.zero_mul, Nat.zero_add]
  simp only [Option.bind_some, scalar?_toNat, Option.map_some]

theorem basic?_numbered (t : Text) {room : Nat} (enough : t.length < room) (rest : Text) :
    basic? room (numbered t ++ '"' :: rest) = some (t, rest) := by
  induction t generalizing room with
  | nil =>
    cases room with
    | zero => contradiction
    | succ room => rfl
  | cons c cs ih =>
    cases room with
    | zero => contradiction
    | succ room =>
      have later := ih (Nat.lt_of_succ_lt_succ enough)
      have first : escaped? ('U' :: (hexText 8 c.toNat ++ (numbered cs ++ '"' :: rest))) =
          some (c, numbered cs ++ '"' :: rest) := numbered?_hexText c _
      have shape : numbered (c :: cs) ++ '"' :: rest =
          '\\' :: 'U' :: (hexText 8 c.toNat ++ (numbered cs ++ '"' :: rest)) := by
        simp [numbered]
      rw [shape, basic?]
      simp only [first, later]
      rfl

theorem text?_quoted {t : Text} (some : t ≠ []) : text? (quoted t) = .some (t, []) := by
  cases t with
  | nil => contradiction
  | cons c cs =>
    have room : (c :: cs).length < (numbered (c :: cs) ++ ['"']).length + 1 := by
      have long : ∀ u : Text, u.length ≤ (numbered u).length := by
        intro u
        induction u with
        | nil => exact Nat.le_refl _
        | cons d ds ih =>
          simp only [numbered, List.flatMap_cons, List.length_append, List.length_cons] at ih ⊢
          omega
      have least := long (c :: cs)
      simp only [List.length_append, List.length_singleton]
      omega
    exact basic?_numbered (c :: cs) room []

/-! ### Reading one line -/

def lineOf (name value : Text) : Text := name ++ lit " = " ++ value

structure Bare (name : Text) : Prop where
  some : name ≠ []
  all : name.all isBareChar = true

theorem Bare.starts {name : Text} (bare : Bare name) :
    ∃ c cs, name = c :: cs ∧ isBareChar c = true := by
  obtain ⟨some, all⟩ := bare
  cases name with
  | nil => contradiction
  | cons c cs =>
    rw [List.all_cons, Bool.and_eq_true] at all
    exact ⟨c, cs, rfl, all.1⟩

theorem bare_ne {c d : Char} (bare : isBareChar c = true) (other : isBareChar d = false) :
    c ≠ d := by
  rintro rfl
  rw [bare] at other
  contradiction

theorem skipBlanks_bare {c : Char} (bare : isBareChar c = true) (rest : Text) :
    skipBlanks (c :: rest) = c :: rest := by
  have visible : isBlank c = false := by
    simp [isBlank, bare_ne bare (d := ' ') rfl, bare_ne bare (d := '\t') rfl]
  exact List.dropWhile_cons_of_neg (by simp [visible])

theorem name?_bare {name : Text} (bare : Bare name) (rest : Text) :
    name? (name ++ ' ' :: rest) = some (name, ' ' :: rest) := by
  have taken : (name ++ ' ' :: rest).takeWhile isBareChar = name := by
    rw [List.takeWhile_append_of_pos (List.all_eq_true.mp bare.all)]
    exact (congrArg (name ++ ·) rfl).trans (List.append_nil name)
  have left : (name ++ ' ' :: rest).dropWhile isBareChar = ' ' :: rest := by
    rw [List.dropWhile_append_of_pos (List.all_eq_true.mp bare.all)]
    rfl
  obtain ⟨c, cs, eq, first⟩ := bare.starts
  unfold name?
  split
  · rename_i opens
    rw [eq, List.cons_append, List.cons.injEq] at opens
    exact absurd opens.1 (bare_ne first rfl)
  · rename_i opens
    rw [eq, List.cons_append, List.cons.injEq] at opens
    exact absurd opens.1 (bare_ne first rfl)
  · simp only [taken, left]
    rw [if_neg]
    simpa using bare.some

theorem key?_bare {name : Text} (bare : Bare name) (value : Text) :
    key? (lineOf name value) = some ([name], '=' :: ' ' :: value) := by
  obtain ⟨c, cs, eq, first⟩ := bare.starts
  have start : skipBlanks (name ++ ' ' :: '=' :: ' ' :: value) =
      name ++ ' ' :: '=' :: ' ' :: value := by
    rw [eq]
    exact skipBlanks_bare first _
  have line : lineOf name value = name ++ ' ' :: '=' :: ' ' :: value := by
    rw [lineOf, List.append_assoc]
    rfl
  show names? (78 + 1) (lineOf name value) = _
  rw [names?, line, start, name?_bare bare]
  rfl

theorem text?_starts {q : Text} {r : Text × Text} (spells : text? q = some r) :
    ∃ c rest, q = c :: rest ∧ (c = '"' ∨ c = '\'') := by
  unfold text? at spells
  split at spells
  · exact ⟨_, _, rfl, Or.inl rfl⟩
  · exact ⟨_, _, rfl, Or.inl rfl⟩
  · exact ⟨_, _, rfl, Or.inr rfl⟩
  · exact ⟨_, _, rfl, Or.inr rfl⟩
  · contradiction

theorem value?_text {q v rest : Text} (spells : text? q = some (v, rest)) (room depth : Nat) :
    value? (room + 1) depth q = some (.text v, rest) := by
  obtain ⟨c, cs, rfl, mark⟩ := text?_starts spells
  rw [value?]
  rw [if_pos (by rcases mark with rfl | rfl <;> rfl), spells]
  rfl

/-- A document that consists of one line is read as the text that it spells. -/
theorem read?_line {name q v : Text} (bare : Bare name) (spells : text? q = some (v, [])) :
    read? (lineOf name q) = some [(name, .text v)] := by
  obtain ⟨c, cs, eq, first⟩ := bare.starts
  have opens : ∃ rest, lineOf name q = c :: rest := ⟨_, by rw [eq]; rfl⟩
  obtain ⟨rest, opens⟩ := opens
  have key := key?_bare bare q
  have unmarked : skipBlanks (' ' :: q) = q := by
    obtain ⟨m, ms, rfl, mark⟩ := text?_starts spells
    rcases mark with rfl | rfl <;> rfl
  have value : value? (2 * (' ' :: q).length + 2) 0 (skipBlanks (' ' :: q)) =
      some (.text v, []) := by
    rw [unmarked]
    exact value?_text spells _ 0
  have read : lines? ((lineOf name q).length + 1) [] [] (lineOf name q) =
      some [(name, .value (.text v))] := by
    have start : skipBlanks (lineOf name q) = lineOf name q := by
      rw [opens]
      exact skipBlanks_bare first rest
    have other : ∀ {d more}, isBareChar d = false → lineOf name q ≠ d :: more := by
      intro d more apart same
      rw [opens, List.cons.injEq] at same
      exact bare_ne first apart same.1
    have unended : afterNewline? (lineOf name q) = none := by
      unfold afterNewline?
      split
      · rename_i same
        exact absurd same (other rfl)
      · rename_i same
        exact absurd same (other rfl)
      · rfl
    have uncommented : (lineOf name q).head? ≠ some '#' := by
      rw [opens]
      intro same
      exact bare_ne first (d := '#') rfl (Option.some.inj same)
    rw [lines?, start]
    split
    · rename_i nothing
      rw [opens] at nothing
      contradiction
    · rename_i same
      exact absurd same (other rfl)
    · rename_i same
      exact absurd same (other rfl)
    · simp only [uncommented, unended, key, lastName?, value]
      have last : ∀ n, lines? n [] [(name, .value (.text v))] [] =
          some [(name, .value (.text v))] := by
        intro n
        cases n <;> rfl
      exact last _
  have unsigned : c ≠ byteOrderMark := bare_ne first rfl
  unfold read?
  simp only [opens] at read ⊢
  rw [if_neg unsigned, read]
  rfl

end BookingRetry.Config.Toml
