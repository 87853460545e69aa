import BookingRetry.Observer
import BookingRetry.Proofs.Observer
import BookingRetry.Proofs.Text.Decode

/-!
Following, told by whole lines. The bytes behind the place where it started fall into lines and an
unfinished rest; however the log grew, the polls together show those lines, up to the first one that
states the end, and that state is what they come to.
-/
namespace BookingRetry.Follow

/-! ### Whole lines of bytes -/

def splitBytes : Bytes → List Bytes × Bytes
  | [] => ([], [])
  | b :: bs =>
    let rest := splitBytes bs
    if b = lineFeed then ([b] :: rest.1, rest.2)
    else match rest.1 with
      | [] => ([], b :: rest.2)
      | l :: ls => ((b :: l) :: ls, rest.2)

def wholeLines (bs : Bytes) : List Bytes := (splitBytes bs).1

def unfinished (bs : Bytes) : Bytes := (splitBytes bs).2

def IsLine (l : Bytes) : Prop := ∃ body, lineFeed ∉ body ∧ l = body ++ [lineFeed]

theorem splitBytes_unbroken {bs : Bytes} (unbroken : lineFeed ∉ bs) : splitBytes bs = ([], bs) := by
  induction bs with
  | nil => rfl
  | cons b bs ih =>
    have other : b ≠ lineFeed := fun same => unbroken (same ▸ List.mem_cons_self)
    have rest := ih fun member => unbroken (List.mem_cons_of_mem _ member)
    simp [splitBytes, rest, other]

theorem splitBytes_line {l : Bytes} (line : IsLine l) (bs : Bytes) :
    splitBytes (l ++ bs) = (l :: wholeLines bs, unfinished bs) := by
  obtain ⟨body, unbroken, rfl⟩ := line
  induction body with
  | nil => rfl
  | cons b body ih =>
    have other : b ≠ lineFeed := fun same => unbroken (same ▸ List.mem_cons_self)
    have rest := ih fun member => unbroken (List.mem_cons_of_mem _ member)
    simp only [List.cons_append, splitBytes, rest, other, if_false]

theorem splitBytes_lines {ls : List Bytes} (lines : ∀ l ∈ ls, IsLine l) {rest : Bytes}
    (unbroken : lineFeed ∉ rest) : splitBytes (ls.flatten ++ rest) = (ls, rest) := by
  induction ls with
  | nil => exact splitBytes_unbroken unbroken
  | cons l ls ih =>
    have later := ih fun l member => lines l (List.mem_cons_of_mem _ member)
    rw [List.flatten_cons, List.append_assoc, splitBytes_line (lines l List.mem_cons_self)]
    simp only [wholeLines, unfinished, later]

theorem splitBytes_spec (bs : Bytes) :
    (∀ l ∈ wholeLines bs, IsLine l) ∧ lineFeed ∉ unfinished bs ∧
      (wholeLines bs).flatten ++ unfinished bs = bs := by
  induction bs with
  | nil => exact ⟨nofun, nofun, rfl⟩
  | cons b bs ih =>
    obtain ⟨lines, unbroken, whole⟩ := ih
    simp only [wholeLines, unfinished] at lines unbroken whole ⊢
    by_cases same : b = lineFeed
    · simp only [splitBytes, same, if_true]
      refine ⟨?_, unbroken, ?_⟩
      · intro l member
        rcases List.mem_cons.mp member with rfl | old
        · exact ⟨[], nofun, rfl⟩
        · exact lines l old
      · exact congrArg (lineFeed :: ·) whole
    · simp only [splitBytes, same, if_false]
      cases pieces : (splitBytes bs).1 with
      | nil =>
        rw [pieces] at whole
        refine ⟨nofun, ?_, ?_⟩
        · intro member
          rcases List.mem_cons.mp member with first | later
          · exact same first.symm
          · exact unbroken later
        · exact congrArg (b :: ·) whole
      | cons l ls =>
        rw [pieces] at lines whole
        refine ⟨?_, unbroken, ?_⟩
        · intro l' member
          rcases List.mem_cons.mp member with rfl | old
          · obtain ⟨body, clean, rfl⟩ := lines l List.mem_cons_self
            refine ⟨b :: body, ?_, rfl⟩
            intro inside
            rcases List.mem_cons.mp inside with first | later
            · exact same first.symm
            · exact clean later
          · exact lines l' (List.mem_cons_of_mem _ old)
        · exact congrArg (b :: ·) whole

theorem isLine_of_mem {bs l : Bytes} (member : l ∈ wholeLines bs) : IsLine l :=
  (splitBytes_spec bs).1 l member

theorem flatten_unfinished (bs : Bytes) : (wholeLines bs).flatten ++ unfinished bs = bs :=
  (splitBytes_spec bs).2.2

theorem splitBytes_flatten {ls : List Bytes} (lines : ∀ l ∈ ls, IsLine l) :
    splitBytes ls.flatten = (ls, []) := by
  have unbroken : lineFeed ∉ [] := nofun
  have split := splitBytes_lines lines unbroken
  rwa [List.append_nil] at split

theorem wholeLines_flatten {ls : List Bytes} (lines : ∀ l ∈ ls, IsLine l) :
    wholeLines ls.flatten = ls := by
  rw [wholeLines, splitBytes_flatten lines]

/-- More bytes finish the unfinished line, and leave the lines before it as they are. -/
theorem splitBytes_append (a b : Bytes) :
    splitBytes (a ++ b) =
      (wholeLines a ++ wholeLines (unfinished a ++ b), unfinished (unfinished a ++ b)) := by
  have old := splitBytes_spec a
  have new := splitBytes_spec (unfinished a ++ b)
  have parts : a ++ b = (wholeLines a ++ wholeLines (unfinished a ++ b)).flatten ++
      unfinished (unfinished a ++ b) := by
    rw [List.flatten_append, List.append_assoc, new.2.2, ← List.append_assoc, old.2.2]
  have split := splitBytes_lines (List.forall_mem_append.mpr ⟨old.1, new.1⟩) new.2.1
  rwa [← parts] at split

theorem wholeLines_append (a b : Bytes) :
    wholeLines (a ++ b) = wholeLines a ++ wholeLines (unfinished a ++ b) := by
  rw [wholeLines, splitBytes_append]

theorem unfinished_append (a b : Bytes) :
    unfinished (a ++ b) = unfinished (unfinished a ++ b) := by
  rw [unfinished, splitBytes_append]

theorem wholeLines_grown {a b : Bytes} (grown : a <+: b) : wholeLines a <+: wholeLines b := by
  obtain ⟨new, rfl⟩ := grown
  rw [wholeLines_append]
  exact List.prefix_append _ _

theorem splitBytes_lineFeed (bs : Bytes) :
    splitBytes (bs ++ [lineFeed]) = (wholeLines bs ++ [unfinished bs ++ [lineFeed]], []) := by
  have line : IsLine (unfinished bs ++ [lineFeed]) :=
    ⟨unfinished bs, (splitBytes_spec bs).2.1, rfl⟩
  have split := splitBytes_line line []
  rw [List.append_nil] at split
  have lines : wholeLines (unfinished bs ++ [lineFeed]) = [unfinished bs ++ [lineFeed]] := by
    rw [wholeLines, split]
    rfl
  have rest : unfinished (unfinished bs ++ [lineFeed]) = [] := by
    rw [unfinished, split]
    rfl
  rw [splitBytes_append, lines, rest]

theorem wholeLines_lineFeed (bs : Bytes) :
    wholeLines (bs ++ [lineFeed]) = wholeLines bs ++ [unfinished bs ++ [lineFeed]] := by
  rw [wholeLines, splitBytes_lineFeed]

theorem unfinished_lineFeed (bs : Bytes) : unfinished (bs ++ [lineFeed]) = [] := by
  rw [unfinished, splitBytes_lineFeed]

theorem unfinished_eq_nil_iff (bs : Bytes) :
    unfinished bs = [] ↔ bs = [] ∨ bs.getLast? = some lineFeed := by
  constructor
  · intro nothing
    have whole := flatten_unfinished bs
    rw [nothing, List.append_nil] at whole
    rcases List.eq_nil_or_concat (wholeLines bs) with none | ⟨front, l, last⟩
    · rw [none] at whole
      exact Or.inl whole.symm
    · have member : l ∈ wholeLines bs := by simp [last]
      have line : IsLine l := isLine_of_mem member
      obtain ⟨body, _, rfl⟩ := line
      rw [← whole, last]
      simp
  · rintro (rfl | ends)
    · rfl
    · obtain ⟨front, rfl⟩ := List.getLast?_eq_some_iff.mp ends
      exact unfinished_lineFeed front

theorem eq_of_same_lines {a b : Bytes} (grown : a <+: b)
    (same : (wholeLines b).length ≤ (wholeLines a).length) (whole : unfinished b = []) :
    b = a ∧ unfinished a = [] := by
  have lines : wholeLines b = wholeLines a :=
    ((wholeLines_grown grown).eq_of_length_le same).symm
  have all := flatten_unfinished b
  rw [whole, List.append_nil, lines] at all
  have parts := flatten_unfinished a
  rw [all] at parts
  have shorter := grown.length_le
  have nothing : unfinished a = [] := by
    apply List.eq_nil_of_length_eq_zero
    rw [← parts, List.length_append] at shorter
    omega
  rw [nothing, List.append_nil] at parts
  exact ⟨parts, nothing⟩

theorem splitBytes_behind {bs l : Bytes} {ls : List Bytes} (lines : wholeLines bs = l :: ls) :
    splitBytes (ls.flatten ++ unfinished bs) = (ls, unfinished bs) := by
  refine splitBytes_lines ?_ (splitBytes_spec bs).2.1
  intro l' member
  have inside : l' ∈ wholeLines bs := lines ▸ List.mem_cons_of_mem _ member
  exact isLine_of_mem inside

theorem wholeLines_length_le (bs : Bytes) : (wholeLines bs).length ≤ bs.length := by
  induction bs with
  | nil => exact Nat.le_refl _
  | cons b bs ih =>
    simp only [wholeLines] at ih ⊢
    simp only [splitBytes]
    split
    · exact Nat.succ_le_succ ih
    · split
      · exact Nat.zero_le _
      · rename_i l ls pieces
        rw [pieces] at ih
        exact Nat.le_succ_of_le ih

/-! ### One poll -/

def stateIn? (ls : List Bytes) : Option FinalState := ls.findSome? stateOfLine?

def upToEnd : List Bytes → List Bytes
  | [] => []
  | l :: ls => if (stateOfLine? l).isSome then [l] else l :: upToEnd ls

theorem upToEnd_subset {ls : List Bytes} {l : Bytes} (member : l ∈ upToEnd ls) : l ∈ ls := by
  induction ls with
  | nil => contradiction
  | cons first ls ih =>
    unfold upToEnd at member
    split at member
    · exact List.mem_singleton.mp member ▸ List.mem_cons_self
    · rcases List.mem_cons.mp member with rfl | later
      · exact List.mem_cons_self
      · exact List.mem_cons_of_mem _ (ih later)

theorem wholeLines_upToEnd (bs : Bytes) :
    wholeLines (upToEnd (wholeLines bs)).flatten = upToEnd (wholeLines bs) :=
  wholeLines_flatten fun _ member => isLine_of_mem (upToEnd_subset member)

theorem upToEnd_endless {ls : List Bytes} (endless : stateIn? ls = none) (more : List Bytes) :
    upToEnd (ls ++ more) = ls ++ upToEnd more := by
  induction ls with
  | nil => rfl
  | cons l ls ih =>
    simp only [stateIn?, List.findSome?_cons] at endless
    cases state : stateOfLine? l with
    | none =>
      rw [state] at endless
      simp [upToEnd, state, ih endless]
    | some s =>
      rw [state] at endless
      contradiction

theorem upToEnd_ended {ls : List Bytes} {s : FinalState} (ended : stateIn? ls = some s)
    (more : List Bytes) : upToEnd (ls ++ more) = upToEnd ls := by
  induction ls with
  | nil => contradiction
  | cons l ls ih =>
    simp only [stateIn?, List.findSome?_cons] at ended
    cases state : stateOfLine? l with
    | none =>
      rw [state] at ended
      simp [upToEnd, state, ih ended]
    | some s' => simp [upToEnd, state]

theorem stateIn?_append (ls more : List Bytes) :
    stateIn? (ls ++ more) = (stateIn? ls).or (stateIn? more) :=
  List.findSome?_append

theorem cutLine?_eq (bs : Bytes) :
    cutLine? bs =
      match wholeLines bs with
      | [] => none
      | l :: ls => some (l, ls.flatten ++ unfinished bs) := by
  induction bs with
  | nil => rfl
  | cons b bs ih =>
    have whole := flatten_unfinished bs
    simp only [wholeLines, unfinished] at ih whole ⊢
    simp only [cutLine?, splitBytes]
    split
    · exact congrArg (fun rest => some ([b], rest)) whole.symm
    · rw [ih]
      cases (splitBytes bs).1 <;> rfl

theorem takeLines_spec (bs : Bytes) {room : Nat} (enough : (wholeLines bs).length ≤ room) :
    (takeLines room bs).1 = (upToEnd (wholeLines bs)).flatten ∧
      (takeLines room bs).2.1 = stateIn? (wholeLines bs) ∧
      (stateIn? (wholeLines bs) = none → (takeLines room bs).2.2 = unfinished bs) := by
  have whole := flatten_unfinished bs
  induction room generalizing bs with
  | zero =>
    have none := List.eq_nil_of_length_eq_zero (Nat.le_zero.mp enough)
    rw [none] at whole ⊢
    exact ⟨rfl, rfl, fun _ => whole.symm⟩
  | succ room ih =>
    have cut := cutLine?_eq bs
    unfold takeLines
    cases lines : wholeLines bs with
    | nil =>
      rw [lines] at cut whole
      simp only [cut]
      exact ⟨rfl, rfl, fun _ => whole.symm⟩
    | cons l ls =>
      rw [lines] at cut enough
      have behind := splitBytes_behind lines
      have left : wholeLines (ls.flatten ++ unfinished bs) = ls := by rw [wholeLines, behind]
      have rest : unfinished (ls.flatten ++ unfinished bs) = unfinished bs := by
        rw [unfinished, behind]
      have later := ih (ls.flatten ++ unfinished bs)
      rw [left, rest] at later
      simp only [cut]
      cases state : stateOfLine? l with
      | none =>
        obtain ⟨shown, found, left⟩ := later (Nat.le_of_succ_le_succ enough) rfl
        simp only [upToEnd, stateIn?, List.findSome?_cons, state]
        refine ⟨?_, found, left⟩
        exact congrArg (l ++ ·) shown
      | some s => simp [upToEnd, stateIn?, state]

theorem upToEnd_of_endless {ls : List Bytes} (endless : stateIn? ls = none) : upToEnd ls = ls := by
  have same := upToEnd_endless endless []
  simpa [upToEnd] using same

theorem ended_grown {a b : Bytes} {place : Nat} {s : FinalState} (grown : a <+: b)
    (inside : place ≤ a.length) (ended : stateIn? (wholeLines (a.drop place)) = some s) :
    upToEnd (wholeLines (b.drop place)) = upToEnd (wholeLines (a.drop place)) ∧
      stateIn? (wholeLines (b.drop place)) = some s := by
  obtain ⟨new, rfl⟩ := grown
  rw [List.drop_append_of_le_length inside, wholeLines_append]
  refine ⟨upToEnd_ended ended _, ?_⟩
  rw [stateIn?_append, ended]
  rfl

/-- How following from a place stands when it has seen the log up to some content without an end. -/
structure Reached (place : Nat) (content : Bytes) (f : Follow) : Prop where
  offset_eq : f.offset = content.length
  inside : place ≤ content.length
  pending_eq : f.pending = unfinished (content.drop place)
  endless : stateIn? (wholeLines (content.drop place)) = none

theorem reached_start {content : Bytes} {place : Nat} (inside : place ≤ content.length) :
    Reached place (content.take place) { offset := place } := by
  have nothing : (content.take place).drop place = [] := by simp
  constructor
  · simp [inside]
  · simp [inside]
  · rw [nothing]
    rfl
  · rw [nothing]
    rfl

theorem poll_reached {place : Nat} {content more : Bytes} {f : Follow}
    (h : Reached place content f) (grown : content <+: more) :
    (wholeLines (content.drop place)).flatten ++ (f.poll more).shown =
        (upToEnd (wholeLines (more.drop place))).flatten ∧
      (f.poll more).finalState = stateIn? (wholeLines (more.drop place)) ∧
      (stateIn? (wholeLines (more.drop place)) = none → Reached place more (f.poll more).next) := by
  obtain ⟨new, rfl⟩ := grown
  have fresh : (content ++ new).drop f.offset = new := by rw [h.offset_eq]; simp
  have behind : (content ++ new).drop place = content.drop place ++ new :=
    List.drop_append_of_le_length h.inside
  have lines := wholeLines_append (content.drop place) new
  have rest := unfinished_append (content.drop place) new
  rw [← behind, ← h.pending_eq] at lines rest
  obtain ⟨shown, found, left⟩ := takeLines_spec (f.pending ++ new)
    (wholeLines_length_le (f.pending ++ new))
  unfold poll
  dsimp only
  rw [fresh, lines, upToEnd_endless h.endless, stateIn?_append, h.endless, Option.none_or]
  refine ⟨?_, found, ?_⟩
  · rw [shown, List.flatten_append]
  · intro endless
    constructor
    · simp [h.offset_eq]
    · simp only [List.length_append]
      exact Nat.le_add_right_of_le h.inside
    · rw [left endless, rest]
    · rw [lines, stateIn?_append, h.endless, endless]
      rfl

/-! ### A run of polls -/

/-- Polls of a log that grows from one content to another: each finds the log, each shows what it
has to show, and only the wait after the last one may be broken off. -/
inductive Watched : Bytes → List Moment → Bytes → Prop where
  | last {content more m} (found : m.content = .ok more) (taken : m.output = .ok ())
      (grown : content <+: more) : Watched content [m] more
  | next {content more final m ms} (found : m.content = .ok more) (taken : m.output = .ok ())
      (waited : m.cancelled = false) (grown : content <+: more)
      (later : Watched more ms final) : Watched content (m :: ms) final

theorem Watched.grown {content last : Bytes} {ms : List Moment} (h : Watched content ms last) :
    content <+: last := by
  induction h with
  | last found taken grown => exact grown
  | next found taken waited grown later ih => exact grown.trans ih

theorem polls_watched {place : Nat} {content last : Bytes} {ms : List Moment} {f : Follow}
    (watched : Watched content ms last) (h : Reached place content f) :
    (wholeLines (content.drop place)).flatten ++ (polls ms f).1.flatten =
        (upToEnd (wholeLines (last.drop place))).flatten ∧
      (polls ms f).2 = .ok (stateIn? (wholeLines (last.drop place))) := by
  induction watched generalizing f with
  | @last content more m found taken grown =>
    obtain ⟨shown, state, _⟩ := poll_reached h grown
    rw [← state, ← shown]
    simp only [polls, found, taken]
    cases (f.poll more).finalState with
    | some s => simp
    | none => cases m.cancelled <;> simp
  | @next content more final m ms found taken waited grown later ih =>
    obtain ⟨shown, state, reached⟩ := poll_reached h grown
    have inside : place ≤ more.length := Nat.le_trans h.inside grown.length_le
    simp only [polls, found, taken, waited]
    cases ended : stateIn? (wholeLines (more.drop place)) with
    | some s =>
      obtain ⟨lines, same⟩ := ended_grown later.grown inside ended
      rw [lines, same, ← shown, state, ended]
      simp
    | none =>
      obtain ⟨all, result⟩ := ih (reached ended)
      rw [upToEnd_of_endless ended] at shown
      rw [← all, ← result, ← shown, state, ended]
      simp

end BookingRetry.Follow
