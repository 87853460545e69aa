import BookingRetry.Proofs.Observer.Growth
import BookingRetry.Proofs.Observer.Reading

/-!
Tail and follow as judges of the same log. A tail takes off the end of a line and no more, a follow
takes off all blanks in front of it too; so a follow takes every line for a marker that a tail does,
and they judge a log alike exactly if no marker in it has blanks behind it.
-/
namespace BookingRetry.Follow

/-- However a log has come to its content, following it from its start comes to a state. -/
def ComesTo (content : Bytes) (state : Option FinalState) : Prop :=
  ∀ ms, Watched [] ms content → (pollsFrom 0 ms).2 = .ok state

def EndsVisibly (l : Bytes) : Prop := Text.trimEnd (textOf l) = textOf l

/-- A tail and a follow from the start agree on lines: on all of them together, on each alone, and
on the state that is stated if only one of them states any. -/
structure JudgedAlike (shown : Nat) (ls : List Bytes) : Prop where
  ended_iff : (∃ s, ComesTo ls.flatten (some s)) ↔
    ∃ s, (TailReport.ofBytes shown ls.flatten).finalState = some s
  line_iff : ∀ l ∈ ls, (∃ s, ComesTo l (some s)) ↔
    ∃ s, (TailReport.ofBytes shown l).finalState = some s
  same : ∀ before l after, ls = before ++ l :: after → (∃ s, ComesTo l (some s)) →
    (∀ l' ∈ before ++ after, ¬ ∃ s, ComesTo l' (some s)) →
    ∃ s, ComesTo ls.flatten (some s) ∧
      (TailReport.ofBytes shown ls.flatten).finalState = some s

theorem comesTo_iff (content : Bytes) (state : Option FinalState) :
    ComesTo content state ↔ stateIn? (wholeLines content) = state := by
  have every : ∀ ms, Watched [] ms content →
      (pollsFrom 0 ms).2 = .ok (stateIn? (wholeLines content)) := by
    intro ms watched
    rw [pollsFrom_eq (Nat.zero_le _)]
    have start : Reached 0 [] { offset := 0 } := reached_start (Nat.zero_le (List.length []))
    exact (polls_watched watched start).2
  constructor
  · intro comes
    have once : Watched [] [{ content := .ok content }] content :=
      .last rfl rfl (List.nil_prefix)
    have told := comes _ once
    rw [every _ once] at told
    exact Except.ok.inj told
  · rintro rfl ms watched
    exact every ms watched

section Lines

variable {ls : List Bytes} {l : Bytes} {s : FinalState}

theorem comesTo_flatten (lines : ∀ l ∈ ls, IsLine l) :
    ComesTo ls.flatten (some s) ↔ stateIn? ls = some s := by
  rw [comesTo_iff, wholeLines_flatten lines]

theorem comesTo_line (line : IsLine l) : ComesTo l (some s) ↔ stateOfLine? l = some s := by
  have one := @comesTo_flatten [l] s (List.forall_mem_singleton.mpr line)
  rw [List.flatten_singleton] at one
  rw [one, stateIn?, List.findSome?_singleton]

theorem lines_flatten (lines : ∀ l ∈ ls, IsLine l) :
    Text.lines (Utf8.decodeLossy ls.flatten) = ls.map textOf := by
  have unbroken : lineFeed ∉ [] := nofun
  have split := splitLines_decode lines unbroken
  rw [List.append_nil] at split
  have nothing : (Utf8.decodeLossy []).isEmpty = true := rfl
  have texts : ls.map textOf =
      (ls.map fun l => Utf8.decodeLossy l.dropLast).map Text.withoutReturn := by
    rw [List.map_map]
    rfl
  simp only [Text.lines, split, nothing, if_true, List.append_nil, texts]

theorem finalState_flatten (lines : ∀ l ∈ ls, IsLine l) (shown : Nat) :
    (TailReport.ofBytes shown ls.flatten).finalState =
      TailReport.lastState? (ls.map textOf) := by
  unfold TailReport.ofBytes
  rw [lines_flatten lines]

theorem finalState_line (line : IsLine l) (shown : Nat) :
    (TailReport.ofBytes shown l).finalState = FinalState.ofLine? (textOf l) := by
  have one := finalState_flatten (List.forall_mem_singleton.mpr line) shown
  rw [List.flatten_singleton] at one
  rw [one]
  simp [TailReport.lastState?]

theorem ofLine?_textOf_iff (line : IsLine l) :
    FinalState.ofLine? (textOf l) = some s ↔ stateOfLine? l = some s ∧ EndsVisibly l := by
  constructor
  · intro marked
    exact ⟨stateOfLine?_of_textOf line marked, trimEnd_of_marker marked⟩
  · rintro ⟨marked, visible⟩
    unfold EndsVisibly at visible
    rwa [stateOfLine?_eq line, visible] at marked

theorem lastState?_some_iff : (∃ s, TailReport.lastState? (ls.map textOf) = some s) ↔
    ∃ l ∈ ls, ∃ s, FinalState.ofLine? (textOf l) = some s := by
  simp only [TailReport.lastState?, ← Option.isSome_iff_exists, List.findSome?_isSome_iff,
    List.mem_reverse, List.mem_map, exists_exists_and_eq_and]

theorem stateIn?_some_iff : (∃ s, stateIn? ls = some s) ↔
    ∃ l ∈ ls, ∃ s, stateOfLine? l = some s := by
  simp only [stateIn?, ← Option.isSome_iff_exists, List.findSome?_isSome_iff]

theorem mem_beside {before after : List Bytes} (l : Bytes) {l' : Bytes}
    (other : l' ∈ before ++ after) : l' ∈ before ++ l :: after :=
  ((List.Sublist.refl before).append (List.sublist_cons_self l after)).subset other

theorem stateIn?_alone {before after : List Bytes} (marked : stateOfLine? l = some s)
    (others : ∀ l' ∈ before ++ after, stateOfLine? l' = none) :
    stateIn? (before ++ l :: after) = some s := by
  have earlier : stateIn? before = none :=
    List.findSome?_eq_none_iff.mpr fun l' member => others l' (List.mem_append_left _ member)
  rw [stateIn?_append, earlier]
  simp [stateIn?, marked]

theorem lastState?_alone {before after : List Bytes}
    (marked : FinalState.ofLine? (textOf l) = some s)
    (others : ∀ l' ∈ before ++ after, FinalState.ofLine? (textOf l') = none) :
    TailReport.lastState? ((before ++ l :: after).map textOf) = some s := by
  have later : (after.map textOf).reverse.findSome? FinalState.ofLine? = none := by
    rw [List.findSome?_eq_none_iff]
    intro t member
    obtain ⟨l', inside, rfl⟩ := List.mem_map.mp (List.mem_reverse.mp member)
    exact others l' (List.mem_append_right _ inside)
  unfold TailReport.lastState?
  rw [List.map_append, List.map_cons, List.reverse_append, List.reverse_cons, List.findSome?_append,
    List.findSome?_append, later]
  simp [marked]

def SameMarkers (ls : List Bytes) : Prop :=
  ∀ l ∈ ls, ∀ s, stateOfLine? l = some s ↔ FinalState.ofLine? (textOf l) = some s

theorem sameMarkers_of_visible (lines : ∀ l ∈ ls, IsLine l)
    (visible : ∀ l ∈ ls, (∃ s, ComesTo l (some s)) → EndsVisibly l) : SameMarkers ls := by
  intro l member s
  have line := lines l member
  rw [ofLine?_textOf_iff line]
  constructor
  · intro marked
    exact ⟨marked, visible l member ⟨s, (comesTo_line line).mpr marked⟩⟩
  · exact And.left

theorem SameMarkers.alone {before after : List Bytes} (same : SameMarkers (before ++ l :: after))
    (marked : stateOfLine? l = some s) (others : ∀ l' ∈ before ++ after, stateOfLine? l' = none) :
    stateIn? (before ++ l :: after) = some s ∧
      TailReport.lastState? ((before ++ l :: after).map textOf) = some s := by
  refine ⟨stateIn?_alone marked others, lastState?_alone ((same l (by simp) s).mp marked) ?_⟩
  intro l' other
  rw [Option.eq_none_iff_forall_ne_some]
  intro s' tailed
  have followed := (same l' (mem_beside l other) s').mpr tailed
  rw [others l' other] at followed
  contradiction

theorem judgedAlike_of_same (shown : Nat) (lines : ∀ l ∈ ls, IsLine l) (same : SameMarkers ls) :
    JudgedAlike shown ls := by
  constructor
  · simp only [comesTo_flatten lines, finalState_flatten lines, stateIn?_some_iff,
      lastState?_some_iff]
    constructor
    · rintro ⟨l, member, s, marked⟩
      exact ⟨l, member, s, (same l member s).mp marked⟩
    · rintro ⟨l, member, s, marked⟩
      exact ⟨l, member, s, (same l member s).mpr marked⟩
  · intro l member
    have line := lines l member
    simp only [comesTo_line line, finalState_line line, same l member]
  · rintro before l after rfl ⟨s, comes⟩ others
    have marked := (comesTo_line (lines l (by simp))).mp comes
    have silent : ∀ l' ∈ before ++ after, stateOfLine? l' = none := by
      intro l' other
      have line := lines l' (mem_beside l other)
      rw [Option.eq_none_iff_forall_ne_some]
      intro s' marked'
      exact others l' other ⟨s', (comesTo_line line).mpr marked'⟩
    obtain ⟨first, last⟩ := same.alone marked silent
    exact ⟨s, (comesTo_flatten lines).mpr first, (finalState_flatten lines shown).trans last⟩

/-- A tail and a follow judge lines alike if and only if no line that a follow takes for a marker
has blanks in front of its line end. -/
theorem judged_alike_iff (shown : Nat) (lines : ∀ l ∈ ls, IsLine l) :
    JudgedAlike shown ls ↔ ∀ l ∈ ls, (∃ s, ComesTo l (some s)) → EndsVisibly l := by
  constructor
  · intro alike l member comes
    have line := lines l member
    obtain ⟨s, tailed⟩ := (alike.line_iff l member).mp comes
    rw [finalState_line line] at tailed
    exact ((ofLine?_textOf_iff line).mp tailed).2
  · intro visible
    exact judgedAlike_of_same shown lines (sameMarkers_of_visible lines visible)

end Lines

def markerWith (ending : String) : Bytes :=
  Utf8.encode (lit "[2026-10-19 06:00:00] SUCCESS: ===== FINAL: SUCCESS (attempts=2) =====" ++
    lit ending)

theorem returned_marker_alike :
    (∀ l ∈ [[0xFF, lineFeed], markerWith "\r\n"], IsLine l) ∧
      JudgedAlike defaultTailLines [[0xFF, lineFeed], markerWith "\r\n"] := by
  have lines : ∀ l ∈ [[0xFF, lineFeed], markerWith "\r\n"], IsLine l := by
    simp only [List.forall_mem_cons]
    refine ⟨⟨[0xFF], by decide, rfl⟩, ⟨(markerWith "\r\n").dropLast, ?_, ?_⟩, nofun⟩ <;>
      decide +kernel
  have visible : ∀ l ∈ [[0xFF, lineFeed], markerWith "\r\n"], EndsVisibly l := by
    simp only [List.forall_mem_cons, EndsVisibly]
    refine ⟨?_, ?_, nofun⟩ <;> decide +kernel
  exact ⟨lines, (judged_alike_iff defaultTailLines lines).mpr fun l member _ => visible l member⟩

theorem blanked_marker_apart :
    (∀ l ∈ [markerWith " \n"], IsLine l) ∧
      ComesTo (markerWith " \n") (some ⟨lit "SUCCESS", 2⟩) ∧
      (TailReport.ofBytes defaultTailLines (markerWith " \n")).finalState = none ∧
      ¬ JudgedAlike defaultTailLines [markerWith " \n"] := by
  have line : IsLine (markerWith " \n") := by
    refine ⟨(markerWith " \n").dropLast, ?_, ?_⟩ <;> decide +kernel
  have comes : ComesTo (markerWith " \n") (some ⟨lit "SUCCESS", 2⟩) := by
    rw [comesTo_line line]
    decide +kernel
  have silent : (TailReport.ofBytes defaultTailLines (markerWith " \n")).finalState = none := by
    decide +kernel
  refine ⟨List.forall_mem_singleton.mpr line, comes, silent, ?_⟩
  intro alike
  obtain ⟨s, tailed⟩ := (alike.line_iff _ (List.mem_singleton_self _)).mp ⟨_, comes⟩
  rw [silent] at tailed
  cases tailed

end BookingRetry.Follow
