import BookingRetry.Proofs.Text.Lines

/-!
What folding keeps of a text: its characters that are not blank, in their order, and those carriage
returns that stand inside a line. A folded text is folded already.
-/
namespace BookingRetry.Text

def withoutBlanks (t : Text) : Text := t.filter fun c => !isBlankChar c

/-- A carriage return stands between two characters of one line that are not blank. -/
def KeepsReturn (t : Text) : Prop :=
  ∃ x mid y, (x :: mid ++ [y]) <:+: t ∧ isBlankChar x = false ∧ isBlankChar y = false ∧
    '\r' ∈ mid ∧ '\n' ∉ mid

/-! ### Characters that are not blank -/

theorem withoutBlanks_append (t u : Text) :
    withoutBlanks (t ++ u) = withoutBlanks t ++ withoutBlanks u := List.filter_append ..

theorem withoutBlanks_of_blank {t : Text} (blank : isBlank t = true) : withoutBlanks t = [] := by
  unfold withoutBlanks
  rw [List.filter_eq_nil_iff]
  intro c member
  simp [List.all_eq_true.mp blank c member]

theorem withoutBlanks_trim (t : Text) : withoutBlanks (trim t) = withoutBlanks t := by
  obtain ⟨front, back, left, right, parts⟩ := trim_parts t
  have whole := congrArg withoutBlanks parts
  rw [withoutBlanks_append, withoutBlanks_append, withoutBlanks_of_blank left,
    withoutBlanks_of_blank right, List.nil_append, List.append_nil] at whole
  exact whole.symm

theorem withoutBlanks_withoutReturn (line : Text) :
    withoutBlanks (withoutReturn line) = withoutBlanks line := by
  rcases withoutReturn_cases line with same | cut
  · rw [same]
  · have whole := congrArg withoutBlanks cut
    rw [withoutBlanks_append] at whole
    exact (whole.trans (List.append_nil _)).symm

theorem splitLines_eq (t : Text) :
    ((splitLines t).1.flatMap fun l => l ++ ['\n']) ++ (splitLines t).2 = t := by
  induction t with
  | nil => rfl
  | cons c cs ih =>
    unfold splitLines
    by_cases same : c = '\n'
    · simp [same, ih]
    · simp only [same, if_false]
      cases pieces : (splitLines cs).1 with
      | nil => simpa [pieces] using ih
      | cons l ls => simpa [pieces] using ih

theorem withoutBlanks_flatten (ls : List Text) :
    withoutBlanks ls.flatten = ls.flatMap withoutBlanks := by
  unfold withoutBlanks
  rw [List.filter_flatten, List.flatMap_def]

theorem withoutBlanks_lines (t : Text) : withoutBlanks (lines t).flatten = withoutBlanks t := by
  have ended : ∀ l : Text, withoutBlanks (l ++ ['\n']) = withoutBlanks (withoutReturn l) := by
    intro l
    rw [withoutBlanks_append, withoutBlanks_withoutReturn]
    exact List.append_nil _
  have last : (if (splitLines t).2.isEmpty then [] else [(splitLines t).2]).flatten =
      (splitLines t).2 := by
    cases (splitLines t).2 <;> simp
  have whole := congrArg withoutBlanks (splitLines_eq t)
  rw [← whole, lines, List.flatten_append, last, withoutBlanks_append, withoutBlanks_append,
    withoutBlanks_flatten, List.flatMap_map]
  unfold List.flatMap
  rw [withoutBlanks_flatten, List.flatMap_map]
  simp only [ended]
  rfl

theorem withoutBlanks_parts (t : Text) : withoutBlanks (parts t).flatten = withoutBlanks t := by
  unfold parts
  rw [List.flatten_filter_not_isEmpty, withoutBlanks_flatten, List.flatMap_map]
  simp only [withoutBlanks_trim]
  rw [← withoutBlanks_flatten, withoutBlanks_lines]

/-! ### Lines inside a text -/

theorem infix_withoutReturn {u line : Text} (whole : u.getLast? ≠ some '\r') (some : u ≠ [])
    (inside : u <:+: line) : u <:+: withoutReturn line := by
  rcases withoutReturn_cases line with same | cut
  · rwa [same]
  · obtain ⟨before, after, eq⟩ := inside
    rcases List.eq_nil_or_concat after with none | ⟨rest, c, more⟩
    · rw [none, List.append_nil, cut] at eq
      have last := congrArg List.getLast? eq
      rw [List.getLast?_concat, last_of_append _ some] at last
      exact absurd last whole
    · rw [more, List.concat_eq_append, cut, ← List.append_assoc] at eq
      exact ⟨before, rest, (List.append_inj' eq rfl).1⟩

theorem infix_splitLines {u : Text} (unbroken : '\n' ∉ u) {t : Text} (inside : u <:+: t) :
    ∃ p ∈ (splitLines t).1 ++ [(splitLines t).2], u <:+: p := by
  obtain ⟨before, after, rfl⟩ := inside
  rw [List.append_assoc]
  induction before with
  | nil =>
    rw [List.nil_append, splitLines_front unbroken]
    cases (splitLines after).1 with
    | nil => exact ⟨_, List.mem_singleton_self _, (List.prefix_append u _).isInfix⟩
    | cons l ls => exact ⟨_, List.mem_cons_self, (List.prefix_append u l).isInfix⟩
  | cons c cs ih =>
    obtain ⟨p, member, found⟩ := ih
    rw [List.cons_append]
    unfold splitLines
    by_cases same : c = '\n'
    · simp only [same, if_true]
      exact ⟨p, List.mem_cons_of_mem _ member, found⟩
    · simp only [same, if_false]
      cases pieces : (splitLines (cs ++ (u ++ after))).1 with
      | nil =>
        rw [pieces, List.nil_append, List.mem_singleton] at member
        exact ⟨_, List.mem_singleton_self _, member ▸ List.infix_cons found⟩
      | cons l ls =>
        rw [pieces, List.cons_append, List.mem_cons] at member
        rcases member with rfl | later
        · exact ⟨c :: p, List.mem_cons_self, List.infix_cons found⟩
        · exact ⟨p, List.mem_cons_of_mem _ later, found⟩

theorem line_inside {t l : Text} (member : l ∈ lines t) : l <:+: t := by
  have whole := splitLines_eq t
  unfold lines at member
  rcases List.mem_append.mp member with piece | last
  · obtain ⟨p, inside, rfl⟩ := List.mem_map.mp piece
    have front : withoutReturn p <:+: p := by
      rcases withoutReturn_cases p with same | cut
      · exact ⟨[], [], by simp [same]⟩
      · exact ⟨[], ['\r'], cut.symm⟩
    have ended : p <:+: p ++ ['\n'] := (List.prefix_append p _).isInfix
    have held : (p ++ ['\n']) <:+: (splitLines t).1.flatMap fun l => l ++ ['\n'] := by
      rw [List.flatMap_def]
      exact List.infix_of_mem_flatten (List.mem_map_of_mem inside)
    have inner := held.trans (List.prefix_append _ (splitLines t).2).isInfix
    rw [whole] at inner
    exact (front.trans ended).trans inner
  · split at last
    · contradiction
    · have inner : (splitLines t).2 <:+: t := ⟨_, [], (List.append_nil _).trans whole⟩
      rwa [List.mem_singleton.mp last]

theorem infix_lines_iff {u t : Text} (unbroken : '\n' ∉ u) (whole : u.getLast? ≠ some '\r')
    (some : u ≠ []) : (∃ l ∈ lines t, u <:+: l) ↔ u <:+: t := by
  constructor
  · rintro ⟨l, member, inside⟩
    exact inside.trans (line_inside member)
  · intro inside
    obtain ⟨p, member, found⟩ := infix_splitLines unbroken inside
    unfold lines
    rcases List.mem_append.mp member with piece | rest
    · refine ⟨withoutReturn p, ?_, infix_withoutReturn whole some found⟩
      exact List.mem_append_left _ (List.mem_map_of_mem piece)
    · rw [List.mem_singleton] at rest
      have more : p ≠ [] := by
        rintro rfl
        exact some (List.infix_nil.mp found)
      refine ⟨p, List.mem_append_right _ ?_, found⟩
      rw [← rest]
      simp [more]

/-! ### Carriage returns -/

theorem past_blanks {a b front rest : Text} {x : Char} (blank : isBlank front = true)
    (visible : isBlankChar x = false) (eq : a ++ x :: b = front ++ rest) :
    ∃ a', a = front ++ a' ∧ rest = a' ++ x :: b := by
  rcases List.append_eq_append_iff.mp eq with ⟨more, longer, tail⟩ | ⟨more, longer, tail⟩
  · cases more with
    | nil => exact ⟨[], by simpa using longer.symm, by simpa using tail.symm⟩
    | cons c cs =>
      rw [List.cons_append, List.cons.injEq] at tail
      have found := List.all_eq_true.mp blank c (by simp [longer])
      rw [← tail.1, visible] at found
      contradiction
  · exact ⟨more, longer, tail⟩

theorem before_blanks {a b back rest : Text} {y : Char} (blank : isBlank back = true)
    (visible : isBlankChar y = false) (eq : a ++ y :: b = rest ++ back) :
    ∃ b', b = b' ++ back ∧ rest = a ++ y :: b' := by
  have turned := congrArg List.reverse eq
  simp only [List.reverse_append, List.reverse_cons, List.append_assoc, List.singleton_append]
    at turned
  have blank' : isBlank back.reverse = true := by rwa [isBlank, List.all_reverse]
  obtain ⟨b', same, left⟩ := past_blanks blank' visible turned
  refine ⟨b'.reverse, ?_, ?_⟩
  · simpa using congrArg List.reverse same
  · simpa using congrArg List.reverse left

theorem infix_trim_iff {x y : Char} {mid t : Text} (first : isBlankChar x = false)
    (last : isBlankChar y = false) : (x :: mid ++ [y]) <:+: trim t ↔ (x :: mid ++ [y]) <:+: t := by
  obtain ⟨front, back, left, right, parts⟩ := trim_parts t
  constructor
  · rintro ⟨a, b, eq⟩
    refine ⟨front ++ a, b ++ back, ?_⟩
    rw [parts, ← eq]
    simp
  · rintro ⟨a, b, eq⟩
    have start : a ++ x :: (mid ++ y :: b) = front ++ (trim t ++ back) := by
      rw [← List.append_assoc front, ← parts, ← eq]
      simp
    obtain ⟨a', _, rest⟩ := past_blanks left first start
    have finish : (a' ++ x :: mid) ++ y :: b = trim t ++ back := by
      rw [rest]
      simp
    obtain ⟨b', _, whole⟩ := before_blanks right last finish
    exact ⟨a', b', by simp [whole]⟩

theorem trim_first_visible {t : Text} {c : Char} (starts : (trim t).head? = some c) :
    isBlankChar c = false := by
  have front : trim t <+: trimStart t := by
    have cut :=
      List.reverse_prefix.mpr (List.dropWhile_suffix (l := (trimStart t).reverse) isBlankChar)
    rwa [List.reverse_reverse] at cut
  obtain ⟨back, eq⟩ := front
  have first := List.head?_dropWhile_not isBlankChar t
  have start : (t.dropWhile isBlankChar).head? = some c := by
    show (trimStart t).head? = some c
    rw [← eq, List.head?_append, starts]
    rfl
  rw [start] at first
  simpa using first

theorem KeepsReturn.inside {t u : Text} (inside : u <:+: t) (keeps : KeepsReturn u) :
    KeepsReturn t := by
  obtain ⟨x, mid, y, found, rest⟩ := keeps
  exact ⟨x, mid, y, found.trans inside, rest⟩

theorem KeepsReturn.return_mem {t : Text} (keeps : KeepsReturn t) : '\r' ∈ t := by
  obtain ⟨x, mid, y, found, _, _, inside, _⟩ := keeps
  exact found.subset (by simp [inside])

theorem return_mem_trim_iff {line : Text} (unbroken : '\n' ∉ line) :
    '\r' ∈ trim line ↔ KeepsReturn line := by
  constructor
  · intro member
    -- A return is blank, so it is neither the first nor the last character of a trimmed line.
    cases trimmed : trim line with
    | nil =>
      rw [trimmed] at member
      contradiction
    | cons x rest =>
      have first : isBlankChar x = false := trim_first_visible (t := line) (by rw [trimmed]; rfl)
      rw [trimmed] at member
      rcases List.mem_cons.mp member with rfl | member
      · contradiction
      rcases List.eq_nil_or_concat rest with rfl | ⟨mid, y, rfl⟩
      · contradiction
      rw [List.concat_eq_append] at trimmed member
      have last : isBlankChar y = false := by
        apply trim_last_visible (t := line)
        rw [trimmed, ← List.cons_append, List.getLast?_concat]
      rcases List.mem_append.mp member with inside | end_
      · have whole : (x :: mid ++ [y]) <:+: line :=
          (infix_trim_iff first last).mp (trimmed ▸ List.infix_rfl)
        refine ⟨x, mid, y, whole, first, last, inside, ?_⟩
        intro broken
        exact unbroken (whole.subset (by simp [broken]))
      · rw [← List.mem_singleton.mp end_] at last
        contradiction
  · rintro ⟨x, mid, y, found, first, last, inside, _⟩
    exact ((infix_trim_iff first last).mpr found).subset (by simp [inside])

theorem mem_parts_iff {t l : Text} : l ∈ parts t ↔ l ≠ [] ∧ ∃ u ∈ lines t, trim u = l := by
  simp [parts, and_comm]

theorem mem_joined_of_mem {sep l : Text} {ls : List Text} {c : Char} (member : l ∈ ls)
    (inside : c ∈ l) : c ∈ joined sep ls := by
  obtain ⟨front, back, rfl⟩ := List.append_of_mem member
  induction front with
  | nil =>
    obtain ⟨rest, eq⟩ := joined_cons sep l back
    rw [List.nil_append, eq]
    exact List.mem_append_left _ inside
  | cons k front ih =>
    have later := ih (by simp)
    rw [List.cons_append]
    cases rest : front ++ l :: back with
    | nil => simp at rest
    | cons k' ls =>
      rw [rest] at later
      rw [joined]
      exact List.mem_append_right _ later

/-- A return is left in a folded text exactly where it stood inside a line: it breaks no line. -/
theorem return_mem_folded_iff (t : Text) : '\r' ∈ folded t ↔ KeepsReturn t := by
  rcases folded_cases t with ⟨_, whole, same⟩ | joins
  · rw [same]
    exact ⟨fun member => absurd member whole, KeepsReturn.return_mem⟩
  · rw [joins]
    constructor
    · intro member
      rcases mem_joined member with between | ⟨l, inside, found⟩
      · exact absurd between (by decide)
      · obtain ⟨_, u, line, rfl⟩ := mem_parts_iff.mp inside
        exact ((return_mem_trim_iff (lines_unbroken line)).mp found).inside (line_inside line)
    · intro keeps
      obtain ⟨x, mid, y, found, first, last, inside, unbroken⟩ := keeps
      have clear : ∀ {c}, isBlankChar c = false → c ≠ '\n' := by
        rintro c visible rfl
        contradiction
      have single : '\n' ∉ x :: mid ++ [y] := by
        simp [unbroken, (clear first).symm, (clear last).symm]
      have ends : (x :: mid ++ [y]).getLast? ≠ some '\r' := by
        rw [List.getLast?_concat]
        intro same
        rw [Option.some.inj same] at last
        contradiction
      obtain ⟨l, line, held⟩ := (infix_lines_iff single ends (by simp)).mpr found
      have kept : '\r' ∈ trim l :=
        (return_mem_trim_iff (lines_unbroken line)).mpr
          ⟨x, mid, y, held, first, last, inside, unbroken⟩
      exact mem_joined_of_mem (mem_parts_iff.mpr ⟨List.ne_nil_of_mem kept, l, line, rfl⟩) kept

/-! ### Folding again -/

theorem lines_of_single {line : Text} (single : Single line) (some : line ≠ []) :
    lines line = [line] := by
  have whole := splitLines_append single.unbroken []
  rw [List.nil_append] at whole
  simp [lines, whole, splitLines, some]

theorem trim_of_ends {t : Text} (first : ∀ c, t.head? = some c → isBlankChar c = false)
    (last : ∀ c, t.getLast? = some c → isBlankChar c = false) : trim t = t := by
  have kept : ∀ u : Text, (∀ c, u.head? = some c → isBlankChar c = false) →
      u.dropWhile isBlankChar = u := by
    intro u starts
    cases u with
    | nil => rfl
    | cons c cs => exact List.dropWhile_cons_of_neg (by simp [starts c rfl])
  have start : trimStart t = t := kept t first
  have finish : t.reverse.dropWhile isBlankChar = t.reverse := by
    apply kept
    intro c ends
    rw [List.head?_reverse] at ends
    exact last c ends
  rw [trim, start, trimEnd, finish, List.reverse_reverse]

theorem trim_joined_parts (t : Text) : trim (joined slash (parts t)) = joined slash (parts t) := by
  apply trim_of_ends
  · intro c starts
    cases eq : parts t with
    | nil =>
      rw [eq] at starts
      contradiction
    | cons l ls =>
      obtain ⟨some, u, _, rfl⟩ := mem_parts_iff.mp (eq ▸ List.mem_cons_self : l ∈ parts t)
      obtain ⟨rest, joins⟩ := joined_cons slash (trim u) ls
      rw [eq, joins, List.head?_append_of_ne_nil _ some] at starts
      exact trim_first_visible starts
  · intro c ends
    rcases List.eq_nil_or_concat (parts t) with none | ⟨front, l, eq⟩
    · rw [none] at ends
      contradiction
    · rw [List.concat_eq_append] at eq
      obtain ⟨some, u, _, rfl⟩ := mem_parts_iff.mp (by simp [eq] : l ∈ parts t)
      obtain ⟨before, joins⟩ := joined_concat slash front (trim u)
      rw [eq, joins, last_of_append _ some] at ends
      exact trim_last_visible ends

theorem folded_folded (t : Text) : folded (folded t) = folded t := by
  rcases folded_cases t with ⟨_, _, same⟩ | joins
  · rw [same, same]
  · rcases folded_cases (folded t) with ⟨_, _, same⟩ | again
    · exact same
    · have trimmed : trim (folded t) = folded t := by rw [joins, trim_joined_parts]
      by_cases none : folded t = []
      · rw [none]
        rfl
      · rw [again, parts, lines_of_single (folded_single t) none, List.map_singleton, trimmed]
        simp [none, joined]

/-- The pieces that folding joins are the text without some of its blanks. -/
theorem folded_keeps_withoutBlanks (t : Text) :
    ∃ ps, folded t = joined slash ps ∧ withoutBlanks ps.flatten = withoutBlanks t := by
  rcases folded_cases t with ⟨_, _, same⟩ | joins
  · exact ⟨[t], same, by simp⟩
  · exact ⟨parts t, joins, withoutBlanks_parts t⟩

end BookingRetry.Text
