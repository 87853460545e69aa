import BookingRetry.Proofs.Observer.Follow

/-!
One line, read by a tail and by a follow. A tail reads a log as text and cuts it into lines, a
follow cuts it into lines and reads each of them; they meet the same lines, and a follow takes every
line for a marker that a tail takes for one.
-/
namespace BookingRetry

theorem Text.trimEnd_visible {t : Text} {c : Char} (visible : isBlankChar c = false)
    (ends : t.getLast? = some c) : trimEnd t = t := by
  obtain ⟨front, rfl⟩ := List.getLast?_eq_some_iff.mp ends
  simp [trimEnd, visible]

theorem FinalState.written_single {s : FinalState} (letters : s.state.all isStateChar = true) :
    Text.Single s.written := by
  have marks : '\n' ∉ opening ∧ '\n' ∉ count ∧ '\n' ∉ closing := by decide
  have name : '\n' ∉ s.state := Text.not_mem_of_all letters rfl
  have number : '\n' ∉ Numeral.written s.attempts := Numeral.not_mem_written rfl _
  constructor
  · simp [written, marks, name, number]
  · unfold written
    rw [Text.last_of_append _ (by decide)]
    decide

theorem FinalState.exists_other (known : List FinalState) :
    ∃ s, s ∉ known ∧ s.state ≠ [] ∧ s.state.all isStateChar = true ∧
      s.attempts ≤ Numeral.maxWord := by
  have bounded : ∃ n, ∀ s ∈ known, s.state.length ≤ n := by
    induction known with
    | nil => exact ⟨0, nofun⟩
    | cons first known ih =>
      obtain ⟨n, bound⟩ := ih
      refine ⟨first.state.length + n, ?_⟩
      intro s member
      rcases List.mem_cons.mp member with rfl | old
      · exact Nat.le_add_right _ _
      · exact Nat.le_trans (bound s old) (Nat.le_add_left _ _)
  obtain ⟨n, bound⟩ := bounded
  refine ⟨⟨List.replicate (n + 1) 'A', 0⟩, ?_, List.cons_ne_nil _ _, ?_, Nat.zero_le _⟩
  · intro member
    have short := bound _ member
    rw [List.length_replicate] at short
    omega
  · rw [List.all_eq_true]
    intro c member
    rw [List.eq_of_mem_replicate member]
    decide

namespace Follow

def textOf (l : Bytes) : Text := Text.withoutReturn (Utf8.decodeLossy l.dropLast)

theorem splitLines_decode {ls : List Bytes} (lines : ∀ l ∈ ls, IsLine l) {rest : Bytes}
    (unbroken : lineFeed ∉ rest) :
    Text.splitLines (Utf8.decodeLossy (ls.flatten ++ rest)) =
      (ls.map fun l => Utf8.decodeLossy l.dropLast, Utf8.decodeLossy rest) := by
  induction ls with
  | nil =>
    have clean : '\n' ∉ Utf8.decodeLossy rest :=
      fun member => unbroken (Utf8.lineFeed_mem_decodeLossy member)
    exact Text.splitLines_append clean []
  | cons l ls ih =>
    obtain ⟨body, clean, rfl⟩ := lines l List.mem_cons_self
    have clean : '\n' ∉ Utf8.decodeLossy body :=
      fun member => clean (Utf8.lineFeed_mem_decodeLossy member)
    have later := ih fun l member => lines l (List.mem_cons_of_mem _ member)
    have read : Utf8.decodeLossy (body ++ lineFeed :: (ls.flatten ++ rest)) =
        Utf8.decodeLossy body ++ '\n' :: Utf8.decodeLossy (ls.flatten ++ rest) :=
      Utf8.decodeLossy_lineFeed body _
    rw [List.flatten_cons, List.append_assoc, List.append_assoc, List.singleton_append]
    rw [read, Text.splitLines_line clean, later]
    simp

def leftover (bs : Bytes) : List Text :=
  if (Utf8.decodeLossy (unfinished bs)).isEmpty then [] else [Utf8.decodeLossy (unfinished bs)]

theorem lines_eq (bs : Bytes) :
    Text.lines (Utf8.decodeLossy bs) = (wholeLines bs).map textOf ++ leftover bs := by
  obtain ⟨lines, unbroken, whole⟩ := splitBytes_spec bs
  have split := splitLines_decode lines unbroken
  rw [whole] at split
  rw [Text.lines, split, List.map_map]
  rfl

/-- A tail meets the whole lines first, and after them what is unfinished. -/
theorem lines_decode (bs : Bytes) :
    ∃ more, Text.lines (Utf8.decodeLossy bs) = (wholeLines bs).map textOf ++ more :=
  ⟨_, lines_eq bs⟩

/-- A follow reads the text that a tail reads, without the blanks at its end. -/
theorem stateOfLine?_eq {l : Bytes} (line : IsLine l) :
    stateOfLine? l = FinalState.ofLine? (Text.trimEnd (textOf l)) := by
  obtain ⟨body, _, rfl⟩ := line
  have text : Utf8.decodeLossy (body ++ [lineFeed]) = Utf8.decodeLossy body ++ ['\n'] :=
    Utf8.decodeLossy_lineFeed body []
  unfold stateOfLine? textOf
  rw [text, List.dropLast_concat, Text.trimEnd_append_blanks (by decide)]
  rcases Text.withoutReturn_cases (Utf8.decodeLossy body) with same | cut
  · rw [same]
  · rw [cut, Text.trimEnd_append_blanks (by decide), ← cut]

theorem trimEnd_of_marker {t : Text} {s : FinalState} (marked : FinalState.ofLine? t = some s) :
    Text.trimEnd t = t := by
  have ends : t.getLast? = some '=' := by
    apply Classical.byContradiction
    intro other
    rw [FinalState.ofLine?_eq_none_of_end other] at marked
    contradiction
  exact Text.trimEnd_visible (by decide) ends

theorem stateOfLine?_of_textOf {l : Bytes} (line : IsLine l) {s : FinalState}
    (marked : FinalState.ofLine? (textOf l) = some s) : stateOfLine? l = some s := by
  rw [stateOfLine?_eq line, trimEnd_of_marker marked]
  exact marked

theorem stateIn?_of_marker {ls : List Bytes} {l : Bytes} (member : l ∈ ls) (line : IsLine l)
    {s : FinalState} (marked : FinalState.ofLine? (textOf l) = some s) : stateIn? ls ≠ none := by
  intro endless
  unfold stateIn? at endless
  rw [List.findSome?_eq_none_iff] at endless
  have state := stateOfLine?_of_textOf line marked
  rw [endless l member] at state
  contradiction

section Written

variable {t : Text}

theorem isLine_encodeLine (single : Text.Single t) : IsLine (Log.encodeLine t) :=
  ⟨Utf8.encode t, fun member => single.unbroken (Utf8.lineFeed_mem_encode member),
    Log.encodeLine_eq t⟩

theorem textOf_encodeLine (single : Text.Single t) : textOf (Log.encodeLine t) = t := by
  unfold textOf
  rw [Log.encodeLine_eq, List.dropLast_concat, Utf8.decodeLossy_encode]
  exact Text.withoutReturn_whole single.whole

end Written

def markerLine (s : FinalState) : Bytes :=
  Log.encodeLine (Log.Record.written ⟨.epoch, .success, s.written⟩)

theorem markerLine_spec {s : FinalState} (named : s.state ≠ [])
    (letters : s.state.all FinalState.isStateChar = true) (fits : s.attempts ≤ Numeral.maxWord) :
    IsLine (markerLine s) ∧ FinalState.ofLine? (textOf (markerLine s)) = some s := by
  have single : Text.Single (Log.Record.written ⟨.epoch, .success, s.written⟩) :=
    Log.written_single (FinalState.written_single letters)
  refine ⟨isLine_encodeLine single, ?_⟩
  rw [markerLine, textOf_encodeLine single, FinalState.ofLine?_record]
  exact FinalState.read?_written named letters fits

end Follow

end BookingRetry
