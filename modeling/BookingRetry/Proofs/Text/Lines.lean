import BookingRetry.Proofs.Text.Basic
import BookingRetry.Text.Basic

/-!
Lines come back as they were written, and a folded text is one line. A first or last character that
is not blank stays the first or last one when a text is folded.
-/
namespace BookingRetry.Text

/-- What stands on one line and is read back as it is. -/
structure Single (line : Text) : Prop where
  unbroken : '\n' ∉ line
  whole : line.getLast? ≠ some '\r'

/-- A text that stays whole in front of a line when the line is trimmed. -/
structure Firm (front : Text) : Prop where
  unbroken : '\n' ∉ front
  first : ∃ c rest, front = c :: rest ∧ isBlankChar c = false
  last : ∃ before c, front = before ++ [c] ∧ isBlankChar c = false

theorem firm_singleton {c : Char} (visible : isBlankChar c = false) : Firm [c] where
  unbroken := by
    intro member
    rw [← List.mem_singleton.mp member] at visible
    contradiction
  first := ⟨c, [], rfl, visible⟩
  last := ⟨[], c, rfl, visible⟩

/-! ### Trimming -/

theorem trimEnd_subset (t : Text) : trimEnd t ⊆ t := by
  intro c member
  have kept := List.dropWhile_subset isBlankChar (List.mem_reverse.mp member)
  exact List.mem_reverse.mp kept

theorem trim_subset (t : Text) : trim t ⊆ t := by
  intro c member
  exact List.dropWhile_subset isBlankChar (trimEnd_subset _ member)

theorem Firm.trimEnd {front : Text} (firm : Firm front) (t : Text) :
    trimEnd (front ++ t) = front ++ trimEnd t := by
  obtain ⟨before, c, rfl, visible⟩ := firm.last
  unfold Text.trimEnd
  rw [List.reverse_append, List.dropWhile_append]
  by_cases blank : t.reverse.dropWhile isBlankChar = []
  · simp [blank, visible]
  · simp [blank]

theorem Firm.trim {front : Text} (firm : Firm front) (t : Text) :
    trim (front ++ t) = front ++ Text.trimEnd t := by
  obtain ⟨c, rest, eq, visible⟩ := firm.first
  have kept : trimStart (front ++ t) = front ++ t := by simp [eq, trimStart, visible]
  rw [Text.trim, kept, firm.trimEnd]

theorem trim_ends {t : Text} {c : Char} (visible : isBlankChar c = false)
    (ends : t.getLast? = some c) : (trim t).getLast? = some c := by
  obtain ⟨front, rfl⟩ := List.getLast?_eq_some_iff.mp ends
  have kept : ∃ more, trimStart (front ++ [c]) = more ++ [c] := by
    unfold trimStart
    rw [List.dropWhile_append]
    by_cases blank : front.dropWhile isBlankChar = []
    · exact ⟨[], by simp [blank, visible]⟩
    · exact ⟨front.dropWhile isBlankChar, by simp [blank]⟩
  obtain ⟨more, eq⟩ := kept
  simp [trim, eq, trimEnd, visible]

theorem trim_last_visible {t : Text} {c : Char} (ends : (trim t).getLast? = some c) :
    isBlankChar c = false := by
  unfold trim trimEnd at ends
  rw [List.getLast?_reverse] at ends
  have first := List.head?_dropWhile_not isBlankChar (trimStart t).reverse
  rw [ends] at first
  simpa using first

theorem trim_of_visible {t : Text} (visible : ∀ c ∈ t, isBlankChar c = false) : trim t = t := by
  have kept : ∀ u : Text, (∀ c ∈ u, isBlankChar c = false) → u.dropWhile isBlankChar = u := by
    intro u visible
    cases u with
    | nil => rfl
    | cons c cs => rw [List.dropWhile_cons_of_neg (by simp [visible])]
  rw [trim, trimStart, kept t visible, trimEnd, kept t.reverse (by simpa using visible),
    List.reverse_reverse]

theorem trim_parts (t : Text) :
    ∃ front back, isBlank front = true ∧ isBlank back = true ∧ t = front ++ trim t ++ back := by
  refine ⟨t.takeWhile isBlankChar, ((trimStart t).reverse.takeWhile isBlankChar).reverse,
    List.all_takeWhile, ?_, ?_⟩
  · rw [isBlank, List.all_reverse]
    exact List.all_takeWhile
  · have inner := congrArg List.reverse
      (List.takeWhile_append_dropWhile (p := isBlankChar) (l := (trimStart t).reverse))
    rw [List.reverse_append, List.reverse_reverse] at inner
    rw [trim, trimEnd, List.append_assoc, inner, trimStart, List.takeWhile_append_dropWhile]

theorem trimStart_append_blanks {ws : Text} (blank : isBlank ws = true) (t : Text) :
    trimStart (ws ++ t) = trimStart t :=
  List.dropWhile_append_of_pos (List.all_eq_true.mp blank)

theorem trimEnd_append_blanks {ws : Text} (blank : isBlank ws = true) (t : Text) :
    trimEnd (t ++ ws) = trimEnd t := by
  have blank : ∀ w ∈ ws.reverse, isBlankChar w = true :=
    fun w member => List.all_eq_true.mp blank w (List.mem_reverse.mp member)
  unfold trimEnd
  rw [List.reverse_append, List.dropWhile_append_of_pos blank]

theorem trim_padded {front back : Text} (left : isBlank front = true) (right : isBlank back = true)
    (t : Text) : trim (front ++ t ++ back) = trim t := by
  rw [trim, List.append_assoc, trimStart_append_blanks left]
  by_cases nothing : trimStart t = []
  · have gone := trimStart_append_blanks right []
    rw [List.append_nil] at gone
    have all : trimStart (t ++ back) = [] := by
      unfold trimStart at nothing gone ⊢
      rw [List.dropWhile_append, nothing]
      exact gone
    rw [all, trim, nothing]
  · have kept : trimStart (t ++ back) = trimStart t ++ back := by
      unfold trimStart at nothing ⊢
      rw [List.dropWhile_append, if_neg (by rwa [List.isEmpty_iff])]
    rw [kept, trimEnd_append_blanks right, trim]

theorem isBlank_padded {front back : Text} (left : isBlank front = true)
    (right : isBlank back = true) (t : Text) : isBlank (front ++ t ++ back) = isBlank t := by
  unfold isBlank at left right ⊢
  rw [List.all_append, List.all_append, left, right, Bool.true_and, Bool.and_true]

/-! ### Splitting -/

theorem splitLines_append {u : Text} (unbroken : '\n' ∉ u) (t : Text) :
    splitLines (t ++ u) = ((splitLines t).1, (splitLines t).2 ++ u) := by
  induction t with
  | nil =>
    induction u with
    | nil => rfl
    | cons c cs ih =>
      have same : c ≠ '\n' := fun eq => unbroken (eq ▸ List.mem_cons_self)
      have rest := ih fun member => unbroken (List.mem_cons_of_mem _ member)
      simp only [List.nil_append] at rest ⊢
      simp [splitLines, rest, same]
  | cons c cs ih =>
    simp only [List.cons_append, splitLines, ih]
    split
    · rfl
    · split <;> rfl

theorem splitLines_front {u : Text} (unbroken : '\n' ∉ u) (t : Text) :
    splitLines (u ++ t) =
      match (splitLines t).1 with
      | [] => ([], u ++ (splitLines t).2)
      | l :: ls => ((u ++ l) :: ls, (splitLines t).2) := by
  induction u with
  | nil => cases eq : splitLines t with | mk whole last => cases whole <;> simp [eq]
  | cons c cs ih =>
    have same : c ≠ '\n' := fun eq => unbroken (eq ▸ List.mem_cons_self)
    have rest := ih fun member => unbroken (List.mem_cons_of_mem _ member)
    simp only [List.cons_append, splitLines, rest, same, if_false]
    cases (splitLines t).1 <;> rfl

theorem splitLines_line {u : Text} (unbroken : '\n' ∉ u) (t : Text) :
    splitLines (u ++ '\n' :: t) = (u :: (splitLines t).1, (splitLines t).2) := by
  induction u with
  | nil => rfl
  | cons c cs ih =>
    have same : c ≠ '\n' := fun eq => unbroken (eq ▸ List.mem_cons_self)
    have rest := ih fun member => unbroken (List.mem_cons_of_mem _ member)
    simp [splitLines, rest, same]

theorem splitLines_lines {ls : List Text} (unbroken : ∀ l ∈ ls, '\n' ∉ l) :
    splitLines (ls.flatMap fun l => l ++ ['\n']) = (ls, []) := by
  induction ls with
  | nil => rfl
  | cons l ls ih =>
    have rest := ih fun l member => unbroken l (List.mem_cons_of_mem _ member)
    rw [List.flatMap_cons, List.append_assoc, List.singleton_append,
      splitLines_line (unbroken l List.mem_cons_self), rest]

theorem splitLines_behind (t : Text) :
    ∃ l ls, splitLines (t ++ ['\n']) = (l :: ls, []) ∧
      ∀ u, splitLines (t ++ '\n' :: u) = (l :: ls ++ (splitLines u).1, (splitLines u).2) := by
  induction t with
  | nil => exact ⟨[], [], rfl, fun u => rfl⟩
  | cons c cs ih =>
    obtain ⟨l, ls, closed, onward⟩ := ih
    by_cases broken : c = '\n'
    · exact ⟨[], l :: ls, by simp [splitLines, broken, closed],
        by simp [splitLines, broken, onward]⟩
    · exact ⟨c :: l, ls, by simp [splitLines, broken, closed], by simp [splitLines, broken, onward]⟩

theorem splitLines_pieces (t : Text) :
    (∀ l ∈ (splitLines t).1, '\n' ∉ l) ∧ '\n' ∉ (splitLines t).2 := by
  induction t with
  | nil => exact ⟨nofun, nofun⟩
  | cons c cs ih =>
    obtain ⟨whole, last⟩ := ih
    unfold splitLines
    by_cases same : c = '\n'
    · simp only [same, if_true]
      refine ⟨?_, last⟩
      intro l member
      rcases List.mem_cons.mp member with rfl | old
      · exact nofun
      · exact whole l old
    · have grown : ∀ l : Text, '\n' ∉ l → '\n' ∉ c :: l := by
        intro l unbroken member
        rcases List.mem_cons.mp member with first | later
        · exact same first.symm
        · exact unbroken later
      simp only [same, if_false]
      cases pieces : (splitLines cs).1 with
      | nil => exact ⟨nofun, grown _ last⟩
      | cons l ls =>
        rw [pieces] at whole
        refine ⟨?_, last⟩
        intro l' member
        rcases List.mem_cons.mp member with rfl | old
        · exact grown l (whole l List.mem_cons_self)
        · exact whole l' (List.mem_cons_of_mem _ old)

theorem withoutReturn_whole {line : Text} (whole : line.getLast? ≠ some '\r') :
    withoutReturn line = line := by
  unfold withoutReturn
  split
  · rename_i rest reversed
    have last : line.getLast? = some '\r' := by
      rw [← List.head?_reverse, reversed]
      rfl
    exact absurd last whole
  · rfl

theorem withoutReturn_cases (line : Text) :
    withoutReturn line = line ∨ line = withoutReturn line ++ ['\r'] := by
  unfold withoutReturn
  split
  · rename_i rest reversed
    refine Or.inr ?_
    have turned := congrArg List.reverse reversed
    simpa using turned
  · exact Or.inl rfl

theorem Firm.withoutReturn {front : Text} (firm : Firm front) (t : Text) :
    ∃ rest, withoutReturn (front ++ t) = front ++ rest := by
  rcases withoutReturn_cases (front ++ t) with same | cut
  · exact ⟨t, same⟩
  · have some : t ≠ [] := by
      rintro rfl
      obtain ⟨before, c, eq, visible⟩ := firm.last
      have last := congrArg List.getLast? cut
      rw [List.append_nil, List.getLast?_concat, eq, List.getLast?_concat] at last
      cases last
      contradiction
    refine ⟨t.dropLast, ?_⟩
    have short := congrArg List.dropLast cut
    rw [List.dropLast_concat, List.dropLast_append_of_ne_nil some] at short
    exact short.symm

/-- Lines that were written one after another are read back. -/
theorem lines_written {ls : List Text} (single : ∀ l ∈ ls, Single l) :
    lines (ls.flatMap fun l => l ++ ['\n']) = ls := by
  unfold lines
  rw [splitLines_lines fun l member => (single l member).unbroken]
  have kept : ls.map withoutReturn = ls.map id :=
    List.map_congr_left fun l member => withoutReturn_whole (single l member).whole
  show ls.map withoutReturn ++ [] = ls
  rw [kept, List.map_id, List.append_nil]

theorem Single.lines {line : Text} (single : Single line) (t : Text) :
    lines (line ++ '\n' :: t) = line :: Text.lines t := by
  simp [Text.lines, splitLines_line single.unbroken, withoutReturn_whole single.whole]

theorem lines_behind (t u : Text) : lines (t ++ '\n' :: u) = lines (t ++ ['\n']) ++ lines u := by
  obtain ⟨l, ls, closed, onward⟩ := splitLines_behind t
  simp [lines, closed, onward]

theorem tail_lines {front : Text} (unbroken : '\n' ∉ front) (t : Text) :
    (lines (front ++ t ++ ['\n'])).tail = (lines (t ++ ['\n'])).tail := by
  obtain ⟨l, ls, closed, -⟩ := splitLines_behind t
  have opened := splitLines_front unbroken (t ++ ['\n'])
  rw [closed] at opened
  simp [lines, closed, opened]

theorem lines_unbroken {t l : Text} (member : l ∈ lines t) : '\n' ∉ l := by
  obtain ⟨whole, last⟩ := splitLines_pieces t
  unfold lines at member
  rcases List.mem_append.mp member with piece | rest
  · obtain ⟨p, inside, rfl⟩ := List.mem_map.mp piece
    intro broken
    rcases withoutReturn_cases p with same | cut
    · exact whole p inside (same ▸ broken)
    · exact whole p inside (cut ▸ List.mem_append_left _ broken)
  · split at rest
    · contradiction
    · rwa [List.mem_singleton.mp rest]

theorem Firm.lines {front : Text} (firm : Firm front) (t : Text) :
    ∃ rest ls, lines (front ++ t) = (front ++ rest) :: ls := by
  unfold Text.lines
  rw [splitLines_front firm.unbroken]
  cases (splitLines t).1 with
  | nil =>
    obtain ⟨c, rest, eq, _⟩ := firm.first
    exact ⟨(splitLines t).2, [], by simp [eq]⟩
  | cons l ls =>
    obtain ⟨rest, eq⟩ := firm.withoutReturn l
    exact ⟨rest, _, by simp [eq]; rfl⟩

theorem lines_end {c : Char} (visible : isBlankChar c = false) (t : Text) :
    ∃ ls l, lines (t ++ [c]) = ls ++ [l] ∧ l.getLast? = some c := by
  have unbroken : '\n' ∉ [c] := by
    intro member
    rw [← List.mem_singleton.mp member] at visible
    contradiction
  refine ⟨(splitLines t).1.map withoutReturn, (splitLines t).2 ++ [c], ?_, List.getLast?_concat⟩
  rw [lines, splitLines_append unbroken]
  simp

/-! ### Folding -/

theorem mem_joined {sep : Text} {ls : List Text} {c : Char} (member : c ∈ joined sep ls) :
    c ∈ sep ∨ ∃ l ∈ ls, c ∈ l := by
  induction ls with
  | nil => contradiction
  | cons l ls ih =>
    cases ls with
    | nil => exact Or.inr ⟨l, List.mem_cons_self, member⟩
    | cons l' ls =>
      simp only [joined, List.mem_append] at member
      rcases member with (first | between) | later
      · exact Or.inr ⟨l, List.mem_cons_self, first⟩
      · exact Or.inl between
      · rcases ih later with between | ⟨u, inside, found⟩
        · exact Or.inl between
        · exact Or.inr ⟨u, List.mem_cons_of_mem _ inside, found⟩

theorem joined_cons (sep l : Text) (ls : List Text) :
    ∃ rest, joined sep (l :: ls) = l ++ rest := by
  cases ls with
  | nil => exact ⟨[], (List.append_nil l).symm⟩
  | cons l' ls => exact ⟨sep ++ joined sep (l' :: ls), List.append_assoc _ _ _⟩

theorem joined_concat (sep : Text) (ls : List Text) (l : Text) :
    ∃ front, joined sep (ls ++ [l]) = front ++ l := by
  induction ls with
  | nil => exact ⟨[], rfl⟩
  | cons k ls ih =>
    obtain ⟨front, eq⟩ := ih
    cases ls with
    | nil => exact ⟨k ++ sep, rfl⟩
    | cons k' ls =>
      refine ⟨k ++ sep ++ front, ?_⟩
      simp only [List.cons_append] at eq ⊢
      rw [joined, eq]
      exact (List.append_assoc _ _ _).symm

theorem folded_plain {t : Text} (unbroken : '\n' ∉ t) (whole : '\r' ∉ t) : folded t = t := by
  simp [folded, unbroken, whole]

def parts (t : Text) : List Text := ((lines t).map trim).filter fun l => !l.isEmpty

theorem folded_cases (t : Text) :
    ('\n' ∉ t ∧ '\r' ∉ t ∧ folded t = t) ∨ folded t = joined slash (parts t) := by
  unfold folded
  split
  · exact Or.inr rfl
  · rename_i plain
    simp only [Bool.or_eq_true, List.contains_iff_mem, not_or] at plain
    exact Or.inl ⟨plain.1, plain.2, rfl⟩

theorem mem_parts {t l : Text} (member : l ∈ parts t) : '\n' ∉ l ∧ ∃ u, l = trim u ∧ l ≠ [] := by
  obtain ⟨trimmed, some⟩ := List.mem_filter.mp member
  obtain ⟨u, inside, rfl⟩ := List.mem_map.mp trimmed
  refine ⟨fun broken => lines_unbroken inside (trim_subset u broken), u, rfl, ?_⟩
  intro none
  simp [none] at some

theorem folded_single (t : Text) : Single (folded t) := by
  rcases folded_cases t with ⟨unbroken, whole, same⟩ | joins
  · rw [same]
    exact ⟨unbroken, fun last => whole (List.mem_of_getLast? last)⟩
  · rw [joins]
    constructor
    · intro broken
      rcases mem_joined broken with between | ⟨l, inside, found⟩
      · exact absurd between (by decide)
      · exact (mem_parts inside).1 found
    · intro last
      rcases List.eq_nil_or_concat (parts t) with none | ⟨front, l, eq⟩
      · rw [none] at last
        contradiction
      · obtain ⟨_, u, trimmed, some⟩ := mem_parts (t := t) (l := l) (by simp [eq])
        obtain ⟨before, joins⟩ := joined_concat slash front l
        rw [eq, List.concat_eq_append, joins, last_of_append _ some, trimmed] at last
        have visible := trim_last_visible last
        contradiction

theorem Firm.folded {front : Text} (firm : Firm front) (t : Text) :
    ∃ rest, folded (front ++ t) = front ++ rest := by
  rcases folded_cases (front ++ t) with ⟨_, _, same⟩ | joins
  · exact ⟨t, same⟩
  · obtain ⟨rest, ls, eq⟩ := firm.lines t
    obtain ⟨more, first⟩ := joined_cons slash (front ++ Text.trimEnd rest)
      ((ls.map Text.trim).filter fun l => !l.isEmpty)
    have same : parts (front ++ t) = (front ++ Text.trimEnd rest) ::
        (ls.map Text.trim).filter fun l => !l.isEmpty := by
      have some : front ≠ [] := by
        obtain ⟨c, cs, opens, _⟩ := firm.first
        simp [opens]
      simp [parts, eq, firm.trim, some]
    rw [joins, same, first]
    exact ⟨_, List.append_assoc _ _ _⟩

theorem folded_starts {c : Char} (visible : isBlankChar c = false) (t : Text) :
    (folded (c :: t)).head? = some c := by
  obtain ⟨rest, eq⟩ := (firm_singleton visible).folded t
  rw [List.singleton_append] at eq
  rw [eq]
  rfl

theorem folded_ends {c : Char} (visible : isBlankChar c = false) (t : Text) :
    (folded (t ++ [c])).getLast? = some c := by
  rcases folded_cases (t ++ [c]) with ⟨_, _, same⟩ | joins
  · rw [same]
    exact List.getLast?_concat
  · obtain ⟨ls, l, eq, ends⟩ := lines_end visible t
    have last := trim_ends visible ends
    have some : trim l ≠ [] := by
      intro none
      rw [none] at last
      contradiction
    have same : parts (t ++ [c]) = ((ls.map trim).filter fun l => !l.isEmpty) ++ [trim l] := by
      simp [parts, eq, some]
    obtain ⟨front, whole⟩ := joined_concat slash ((ls.map trim).filter fun l => !l.isEmpty) (trim l)
    rw [joins, same, whole, last_of_append _ some, last]

end BookingRetry.Text
