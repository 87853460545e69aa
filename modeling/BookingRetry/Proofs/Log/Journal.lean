import BookingRetry.Log.Journal
import BookingRetry.Observer
import BookingRetry.Proofs.Text.Lines
import BookingRetry.Proofs.Text.Utf8

/-!
What a log file holds: whole lines, and after a fault perhaps a part of one more. A file that takes
everything has whole lines only.
-/
namespace BookingRetry.Log

def encodeLine (line : Text) : Bytes := Utf8.encode (line ++ ['\n'])

def encodeLines (lines : List Text) : Bytes := lines.flatMap encodeLine

/-- What a file holds: whole lines, and what there is of one that was broken off. -/
structure Holds (bytes : Bytes) (whole : List Text) (part : Bytes) : Prop where
  bytes_eq : bytes = encodeLines whole ++ part
  single : ∀ l ∈ whole, Text.Single l
  open_ended : Follow.lineFeed ∉ part

theorem encodeLines_snoc (lines : List Text) (line : Text) :
    encodeLines (lines ++ [line]) = encodeLines lines ++ encodeLine line := by
  simp [encodeLines]

theorem encodeLines_eq (lines : List Text) :
    encodeLines lines = Utf8.encode (lines.flatMap fun l => l ++ ['\n']) := by
  unfold encodeLines Utf8.encode
  rw [List.flatMap_assoc]
  rfl

theorem encodeLine_eq (line : Text) : encodeLine line = Utf8.encode line ++ [Follow.lineFeed] :=
  Utf8.encode_append line ['\n']

theorem encodeLine_nonempty (line : Text) : encodeLine line ≠ [] := by
  rw [encodeLine_eq]
  simp

theorem lineFeed_not_mem_take {line : Text} (unbroken : '\n' ∉ line) {m : Nat}
    (short : m < (encodeLine line).length) : Follow.lineFeed ∉ (encodeLine line).take m := by
  rw [encodeLine_eq] at short ⊢
  rw [List.length_append] at short
  rw [List.take_append_of_le_length (Nat.le_of_lt_succ short)]
  intro member
  exact unbroken (Utf8.lineFeed_mem_encode (List.mem_of_mem_take member))

theorem holds_snoc {bytes : Bytes} {whole : List Text} {line : Text}
    (h : Holds bytes whole []) (single : Text.Single line) :
    Holds (bytes ++ encodeLine line) (whole ++ [line]) [] where
  bytes_eq := by
    rw [encodeLines_snoc, h.bytes_eq, List.append_nil, List.append_nil]
  single := by
    intro l member
    rcases List.mem_append.mp member with old | new
    · exact h.single l old
    · rwa [List.mem_singleton.mp new]
  open_ended := nofun

theorem holds_torn {bytes : Bytes} {whole : List Text} {line : Text} {m : Nat}
    (h : Holds bytes whole []) (single : Text.Single line) (short : m < (encodeLine line).length) :
    Holds (bytes ++ (encodeLine line).take m) whole ((encodeLine line).take m) where
  bytes_eq := by
    rw [h.bytes_eq, List.append_nil]
  single := h.single
  open_ended := lineFeed_not_mem_take single.unbroken short

namespace Sink

structure Sound (s : Sink) : Prop where
  unlimited : s.limit = none
  faultless : ∀ k, s.faults k = none
  syncs : s.syncFault = none

theorem append_sound {s : Sink} (h : s.Sound) (bs : Bytes) :
    (s.append bs).1 = .ok () ∧ (s.append bs).2.Sound := by
  unfold append
  rw [h.faultless]
  simp only [h.unlimited]
  exact ⟨trivial, rfl, h.faultless, h.syncs⟩

theorem append_cases (s : Sink) {bs : Bytes} (some : bs ≠ []) :
    ((s.append bs).1 = .ok () ∧ (s.append bs).2.bytes = s.bytes ++ bs) ∨
    ∃ f m, (s.append bs).1 = .error f ∧ m < bs.length ∧
      (s.append bs).2.bytes = s.bytes ++ bs.take m := by
  have positive : 0 < bs.length := List.length_pos_iff.mpr some
  unfold append
  dsimp only
  split
  · rename_i f _
    exact Or.inr ⟨f, 0, rfl, positive, by simp⟩
  · split
    · exact Or.inl ⟨rfl, rfl⟩
    · rename_i most _
      split
      · exact Or.inl ⟨rfl, rfl⟩
      · exact Or.inr ⟨.tooLarge, most - s.bytes.length, rfl, by omega, rfl⟩

end Sink

namespace Journal

def Sound (j : Journal) : Prop := j.sink.Sound

def mirrorAfter (line : Text) (j : Journal) : Option Mirror :=
  j.mirror.map fun m => (m.offer line).2

theorem write_of_open {j : Journal} (opened : j.isOpen = true) (line : Text) :
    j.write line = ((j.sink.append (encodeLine line)).1,
      { sink := (j.sink.append (encodeLine line)).2
        isOpen := true
        mirror := j.mirrorAfter line }) := by
  unfold write
  simp only [opened, if_true]
  rfl

theorem write_of_closed {j : Journal} (closed : j.isOpen = false) (line : Text) :
    j.write line = (.ok (), { j with mirror := j.mirrorAfter line }) := by
  unfold write
  simp only [closed, Bool.false_eq_true, if_false]
  rfl

theorem write_mirror (line : Text) (j : Journal) :
    (j.write line).2.mirror = j.mirrorAfter line := by
  cases opened : j.isOpen with
  | true => rw [write_of_open opened]
  | false => rw [write_of_closed opened]

theorem write_sound {j : Journal} (h : j.Sound) (line : Text) :
    (j.write line).1 = .ok () ∧ (j.write line).2.Sound := by
  cases opened : j.isOpen with
  | true =>
    rw [write_of_open opened]
    exact Sink.append_sound h _
  | false =>
    rw [write_of_closed opened]
    exact ⟨rfl, h⟩

/-- A write to an open log adds a whole line, or it fails and may leave a part of one. -/
theorem write_cases {j : Journal} (opened : j.isOpen = true) {whole : List Text} {line : Text}
    (h : Holds j.sink.bytes whole []) (single : Text.Single line) :
    (j.write line).2.isOpen = true ∧
      ((j.write line).1 = .ok () ∧ Holds (j.write line).2.sink.bytes (whole ++ [line]) [] ∨
        ∃ f part, (j.write line).1 = .error f ∧ Holds (j.write line).2.sink.bytes whole part) := by
  rw [write_of_open opened]
  refine ⟨rfl, ?_⟩
  rcases Sink.append_cases j.sink (encodeLine_nonempty line) with
    ⟨written, bytes⟩ | ⟨f, m, failed, short, bytes⟩
  · refine Or.inl ⟨written, ?_⟩
    have longer := holds_snoc h single
    rwa [← bytes] at longer
  · refine Or.inr ⟨f, (encodeLine line).take m, failed, ?_⟩
    have torn := holds_torn h single short
    rwa [← bytes] at torn

theorem write_torn {j : Journal} (opened : j.isOpen = true) {line : Text} (unbroken : '\n' ∉ line) :
    ((j.write line).1 = .ok () ∧ (j.write line).2.isOpen = true ∧
      (j.write line).2.sink.bytes = j.sink.bytes ++ encodeLine line) ∨
    ∃ f part, (j.write line).1 = .error f ∧ Follow.lineFeed ∉ part ∧
      (j.write line).2.sink.bytes = j.sink.bytes ++ part := by
  rw [write_of_open opened]
  rcases Sink.append_cases j.sink (encodeLine_nonempty line) with
    ⟨written, bytes⟩ | ⟨f, m, failed, short, bytes⟩
  · exact Or.inl ⟨written, rfl, bytes⟩
  · exact Or.inr ⟨f, _, failed, lineFeed_not_mem_take unbroken short, bytes⟩

theorem rawAll_torn {j : Journal} (opened : j.isOpen = true) (ts : List Text) :
    ((rawAll ts j).1 = .ok () ∧ (rawAll ts j).2.isOpen = true ∧
      (rawAll ts j).2.sink.bytes = j.sink.bytes ++ encodeLines (ts.map Text.folded)) ∨
    ∃ f front part, (rawAll ts j).1 = .error f ∧ front <+: ts.map Text.folded ∧
      Follow.lineFeed ∉ part ∧
      (rawAll ts j).2.sink.bytes = j.sink.bytes ++ (encodeLines front ++ part) := by
  induction ts generalizing j with
  | nil => exact Or.inl ⟨rfl, opened, (List.append_nil _).symm⟩
  | cons t ts ih =>
    have first := write_torn opened (Text.folded_single t).unbroken
    unfold rawAll raw
    cases step : j.write (Text.folded t) with
    | mk result after =>
      rw [step] at first
      rcases first with ⟨rfl, still, bytes⟩ | ⟨f, part, rfl, torn, bytes⟩
      · rcases ih still with ⟨all, last, more⟩ | ⟨f, front, part, stopped, fits, torn, more⟩
        · refine Or.inl ⟨all, last, ?_⟩
          rw [more, bytes, List.append_assoc]
          rfl
        · refine Or.inr ⟨f, Text.folded t :: front, part, stopped, ?_, torn, ?_⟩
          · exact List.cons_prefix_cons.mpr ⟨rfl, fits⟩
          · rw [more, bytes, List.append_assoc, ← List.append_assoc (encodeLine _)]
            rfl
      · exact Or.inr ⟨f, [], part, rfl, List.nil_prefix, torn, bytes⟩

theorem write_ok {j : Journal} (opened : j.isOpen = true) {line : Text}
    (written : (j.write line).1 = .ok ()) :
    (j.write line).2.isOpen = true ∧
      (j.write line).2.sink.bytes = j.sink.bytes ++ encodeLine line := by
  rw [write_of_open opened] at written ⊢
  refine ⟨rfl, ?_⟩
  rcases Sink.append_cases j.sink (encodeLine_nonempty line) with ⟨_, bytes⟩ | ⟨f, m, failed, _⟩
  · exact bytes
  · rw [written] at failed
    contradiction

theorem rawAll_ok {j : Journal} (opened : j.isOpen = true) {ts : List Text}
    (written : (rawAll ts j).1 = .ok ()) :
    (rawAll ts j).2.isOpen = true ∧
      (rawAll ts j).2.sink.bytes = j.sink.bytes ++ encodeLines (ts.map Text.folded) := by
  induction ts generalizing j with
  | nil => exact ⟨opened, (List.append_nil _).symm⟩
  | cons t ts ih =>
    unfold rawAll at written ⊢
    cases first : j.raw t with
    | mk result after =>
      rw [first] at written
      cases result with
      | error f => contradiction
      | ok u =>
        have wrote := @write_ok j opened (Text.folded t)
        unfold raw at first
        rw [first] at wrote
        obtain ⟨still, bytes⟩ := wrote rfl
        obtain ⟨last, all⟩ := ih still written
        refine ⟨last, ?_⟩
        rw [all, bytes, List.append_assoc]
        rfl

theorem rawAll_sound {j : Journal} (h : j.Sound) (ts : List Text) :
    (rawAll ts j).1 = .ok () ∧ (rawAll ts j).2.Sound := by
  induction ts generalizing j with
  | nil => exact ⟨rfl, h⟩
  | cons t ts ih =>
    obtain ⟨written, sound⟩ := write_sound h (Text.folded t)
    unfold rawAll
    cases first : j.raw t with
    | mk result after =>
      simp only [raw] at first
      rw [first] at written sound
      cases written
      exact ih sound

theorem close_leaves (j : Journal) : j.close.2 = { j with isOpen := false } := by
  unfold close
  cases j with
  | mk sink isOpen mirror => cases isOpen <;> rfl

theorem close_sound {j : Journal} (h : j.Sound) : (j.close).1 = .ok () ∧ (j.close).2.Sound := by
  unfold close
  cases opened : j.isOpen with
  | true =>
    rw [Sink.Sound.syncs h]
    exact ⟨rfl, h⟩
  | false => exact ⟨rfl, h⟩

/-! ### Faults -/

/-- No operation on a log has failed since an earlier moment, and the log has not been ended. -/
structure Intact (earlier j : Journal) : Prop where
  opened : j.isOpen = true
  unlimited : j.sink.limit = none
  faults_eq : j.sink.faults = earlier.sink.faults
  sync_eq : j.sink.syncFault = earlier.sink.syncFault
  later : earlier.sink.writes ≤ j.sink.writes
  faultless : ∀ k, earlier.sink.writes ≤ k → k < j.sink.writes → earlier.sink.faults k = none

/-- An operation on a log has failed since an earlier moment: a write, or the end of the log. -/
inductive FailedSince (earlier j : Journal) (f : FileFault) : Prop where
  | write {k : Nat} (since : earlier.sink.writes ≤ k) (made : k < j.sink.writes)
      (fault : earlier.sink.faults k = some f)
  | sync (ended : j.isOpen = false) (fault : earlier.sink.syncFault = some f)

variable {earlier j : Journal}

theorem intact_refl (opened : j.isOpen = true) (unlimited : j.sink.limit = none) : j.Intact j where
  opened := opened
  unlimited := unlimited
  faults_eq := rfl
  sync_eq := rfl
  later := Nat.le_refl _
  faultless := by
    intro k since made
    omega

theorem Intact.not_failed (h : earlier.Intact j) (f : FileFault) : ¬ earlier.FailedSince j f := by
  intro failed
  cases failed with
  | write since made fault =>
    rw [h.faultless _ since made] at fault
    contradiction
  | sync ended =>
    rw [h.opened] at ended
    contradiction

theorem Intact.write (h : earlier.Intact j) (line : Text) :
    ((j.write line).1 = .ok () ∧ earlier.Intact (j.write line).2 ∧
      (j.write line).2.sink.bytes = j.sink.bytes ++ encodeLine line) ∨
    ∃ f, (j.write line).1 = .error f ∧ earlier.FailedSince (j.write line).2 f ∧
      (j.write line).2.sink.bytes = j.sink.bytes := by
  have fault := congrFun h.faults_eq j.sink.writes
  have later := h.later
  unfold Journal.write Sink.append
  simp only [h.opened, h.unlimited, if_true]
  cases chosen : j.sink.faults j.sink.writes with
  | some f =>
    rw [chosen] at fault
    exact Or.inr ⟨f, rfl, .write later (Nat.lt_succ_self _) fault.symm, rfl⟩
  | none =>
    rw [chosen] at fault
    refine Or.inl ⟨rfl, ?_, rfl⟩
    exact
      { opened := rfl
        unlimited := rfl
        faults_eq := h.faults_eq
        sync_eq := h.sync_eq
        later := Nat.le_succ_of_le later
        faultless := by
          intro k since made
          rcases Nat.lt_succ_iff_lt_or_eq.mp made with old | rfl
          · exact h.faultless k since old
          · exact fault.symm }

theorem Intact.rawAll (h : earlier.Intact j) (ts : List Text) :
    ((rawAll ts j).1 = .ok () ∧ earlier.Intact (rawAll ts j).2 ∧
      (rawAll ts j).2.sink.bytes = j.sink.bytes ++ encodeLines (ts.map Text.folded)) ∨
    ∃ f written, (rawAll ts j).1 = .error f ∧ earlier.FailedSince (rawAll ts j).2 f ∧
      written <+: ts.map Text.folded ∧
      (rawAll ts j).2.sink.bytes = j.sink.bytes ++ encodeLines written := by
  induction ts generalizing j with
  | nil => exact Or.inl ⟨rfl, h, (List.append_nil _).symm⟩
  | cons t ts ih =>
    unfold Journal.rawAll raw
    have first := h.write (Text.folded t)
    cases step : j.write (Text.folded t) with
    | mk result after =>
      rw [step] at first
      rcases first with ⟨rfl, intact, bytes⟩ | ⟨f, rfl, failed, bytes⟩
      · rcases ih intact with ⟨all, still, more⟩ | ⟨f, written, stopped, failed, front, more⟩
        · refine Or.inl ⟨all, still, ?_⟩
          rw [more, bytes, List.append_assoc]
          rfl
        · refine Or.inr ⟨f, Text.folded t :: written, stopped, failed, ?_, ?_⟩
          · exact List.cons_prefix_cons.mpr ⟨rfl, front⟩
          · rw [more, bytes, List.append_assoc]
            rfl
      · exact Or.inr ⟨f, [], rfl, failed, List.nil_prefix, bytes.trans (List.append_nil _).symm⟩

theorem Intact.close (h : earlier.Intact j) :
    (j.close).2.isOpen = false ∧
      (((j.close).1 = .ok () ∧ ∀ f, ¬ earlier.FailedSince (j.close).2 f) ∨
        ∃ f, (j.close).1 = .error f ∧ earlier.FailedSince (j.close).2 f) := by
  have sync := h.sync_eq
  unfold Journal.close
  simp only [h.opened, if_true, true_and]
  cases chosen : j.sink.syncFault with
  | some f =>
    rw [chosen] at sync
    exact Or.inr ⟨f, rfl, .sync rfl sync.symm⟩
  | none =>
    rw [chosen] at sync
    refine Or.inl ⟨rfl, ?_⟩
    intro f failed
    cases failed with
    | write since made fault =>
      rw [h.faultless _ since made] at fault
      contradiction
    | sync ended fault =>
      rw [← sync] at fault
      contradiction

end Journal

end BookingRetry.Log
