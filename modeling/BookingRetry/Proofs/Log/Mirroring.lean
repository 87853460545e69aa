import BookingRetry.Proofs.Log.ReadBack
import Mathlib.Data.List.Forall2

/-!
A log and its mirror. What is done to a log goes the same way whatever its mirror is and whatever
becomes of the lines there. The file holds the lines of what was done before the log was closed, and
a mirror that takes every line shows the lines of all that was done.
-/
namespace BookingRetry.Log

inductive Operation where
  | post (p : Posting)
  | close

def Operation.lines : Operation → List Text
  | post p => p.lines
  | close => []

def untilClose : List Operation → List Posting
  | [] => []
  | .post p :: ops => p :: untilClose ops
  | .close :: _ => []

inductive Matches (L : Text → Text → Prop) : Operation → Operation → Prop where
  | post {p p' : Posting} (lines : List.Forall₂ L p.lines p'.lines) : Matches L (.post p) (.post p')
  | close : Matches L .close .close

namespace Journal

def writeAll : List Text → Journal → Except FileFault Unit × Journal
  | [], j => (.ok (), j)
  | l :: ls, j =>
    match j.write l with
    | (.ok (), j) => writeAll ls j
    | failed => failed

def perform : Operation → Journal → Except FileFault Unit × Journal
  | .post p, j => j.post p
  | .close, j => j.close

def performAll : List Operation → Journal → List (Except FileFault Unit) × Journal
  | [], j => ([], j)
  | o :: ops, j =>
    let first := j.perform o
    let rest := performAll ops first.2
    (first.1 :: rest.1, rest.2)

variable {j j' : Journal}

/-! ### Postings as lines -/

theorem writeAll_one (l : Text) (j : Journal) : j.writeAll [l] = j.write l := by
  unfold writeAll
  cases first : j.write l with
  | mk result after => cases result <;> rfl

theorem rawAll_eq_writeAll (ts : List Text) (j : Journal) :
    j.rawAll ts = j.writeAll (ts.map Text.folded) := by
  induction ts generalizing j with
  | nil => rfl
  | cons t ts ih =>
    simp only [rawAll, List.map_cons, writeAll, raw]
    cases first : j.write (Text.folded t) with
    | mk result after =>
      cases result with
      | error f => rfl
      | ok u => exact ih after

theorem post_eq_writeAll (p : Posting) (j : Journal) : j.post p = j.writeAll p.lines := by
  cases p with
  | record stamp level message => exact (writeAll_one _ j).symm
  | raw t =>
    rw [Posting.lines_raw, writeAll_one]
    rfl
  | header start h =>
    rw [Posting.lines_header]
    exact rawAll_eq_writeAll _ j

/-! ### Two logs -/

/-- Two logs that are related go on alike: where lines that belong together are written to them, and
where they are closed, the results are the same and they stay related. -/
structure InStep (R : Journal → Journal → Prop) (L : Text → Text → Prop) : Prop where
  write : ∀ {j j'}, R j j' → ∀ {l l'}, L l l' →
    (j.write l).1 = (j'.write l').1 ∧ R (j.write l).2 (j'.write l').2
  close : ∀ {j j'}, R j j' → j.close.1 = j'.close.1 ∧ R j.close.2 j'.close.2

section InStep

variable {R : Journal → Journal → Prop} {L : Text → Text → Prop}

theorem InStep.writeAll (inStep : InStep R L) (related : R j j') {ls ls' : List Text}
    (lines : List.Forall₂ L ls ls') :
    (j.writeAll ls).1 = (j'.writeAll ls').1 ∧ R (j.writeAll ls).2 (j'.writeAll ls').2 := by
  induction lines generalizing j j' with
  | nil => exact ⟨rfl, related⟩
  | @cons l l' ls ls' line lines ih =>
    obtain ⟨same, still⟩ := inStep.write related line
    unfold Journal.writeAll
    cases first : j.write l with
    | mk result after =>
      cases second : j'.write l' with
      | mk result' after' =>
        rw [first, second] at same still
        cases same
        cases result with
        | error f => exact ⟨rfl, still⟩
        | ok u => exact ih still

theorem InStep.perform (inStep : InStep R L) (related : R j j') {o o' : Operation}
    (alike : Matches L o o') :
    (j.perform o).1 = (j'.perform o').1 ∧ R (j.perform o).2 (j'.perform o').2 := by
  cases alike with
  | post lines =>
    simp only [Journal.perform, post_eq_writeAll]
    exact inStep.writeAll related lines
  | close => exact inStep.close related

theorem InStep.performAll (inStep : InStep R L) (related : R j j') {ops ops' : List Operation}
    (alike : List.Forall₂ (Matches L) ops ops') :
    (j.performAll ops).1 = (j'.performAll ops').1 ∧
      R (j.performAll ops).2 (j'.performAll ops').2 := by
  induction alike generalizing j j' with
  | nil => exact ⟨rfl, related⟩
  | @cons o o' ops ops' first rest ih =>
    obtain ⟨same, still⟩ := inStep.perform related first
    obtain ⟨later, last⟩ := ih still
    simp only [Journal.performAll]
    exact ⟨by rw [same, later], last⟩

/-- Logs that are open or closed both, with files that are related; of their mirrors nothing is
said. -/
def OnFiles (S : Sink → Sink → Prop) (j j' : Journal) : Prop :=
  j.isOpen = j'.isOpen ∧ S j.sink j'.sink

theorem onFiles_inStep {S : Sink → Sink → Prop}
    (append : ∀ {s s'}, S s s' → ∀ {l l'}, L l l' →
      (s.append (encodeLine l)).1 = (s'.append (encodeLine l')).1 ∧
        S (s.append (encodeLine l)).2 (s'.append (encodeLine l')).2)
    (sync : ∀ {s s'}, S s s' → s.syncFault = s'.syncFault) : InStep (OnFiles S) L where
  write := by
    rintro j j' ⟨opened, files⟩ l l' line
    cases state : j'.isOpen with
    | true =>
      obtain ⟨same, still⟩ := append files line
      rw [write_of_open state, write_of_open (opened.trans state)]
      exact ⟨same, rfl, still⟩
    | false =>
      rw [write_of_closed state, write_of_closed (opened.trans state)]
      exact ⟨rfl, opened, files⟩
  close := by
    rintro j j' ⟨opened, files⟩
    rw [close_leaves, close_leaves]
    refine ⟨?_, rfl, files⟩
    unfold close
    rw [opened, sync files]
    cases j'.isOpen <;> rfl

end InStep

theorem same_inStep : InStep (OnFiles Eq) Eq := by
  apply onFiles_inStep
  · rintro s s' rfl l l' rfl
    exact ⟨rfl, rfl⟩
  · rintro s s' rfl
    rfl

end Journal

/-! ### Other times -/

inductive LineAlike : Text → Text → Prop where
  | same (l : Text) : LineAlike l l
  | record (s s' : Stamp) (level : Level) (message : Text) :
      LineAlike (Record.written ⟨s, level, message⟩) (Record.written ⟨s', level, message⟩)
  | start (s s' : Stamp) : LineAlike (lit "start: " ++ s.written) (lit "start: " ++ s'.written)

/-- Files that go on from the same content with lines, whole or cut off at the same place, that
differ in nothing but stamps. -/
inductive SameButStamps : Bytes → Bytes → Prop where
  | refl (bytes : Bytes) : SameButStamps bytes bytes
  | whole {bytes bytes' : Bytes} {l l' : Text} (front : SameButStamps bytes bytes')
      (line : LineAlike l l') : SameButStamps (bytes ++ encodeLine l) (bytes' ++ encodeLine l')
  | torn {bytes bytes' : Bytes} {l l' : Text} (front : SameButStamps bytes bytes')
      (line : LineAlike l l') (m : Nat) :
      SameButStamps (bytes ++ (encodeLine l).take m) (bytes' ++ (encodeLine l').take m)

inductive Posting.Alike : Posting → Posting → Prop where
  | record (s s' : Stamp) (level : Level) (message : Text) :
      Alike (.record s level message) (.record s' level message)
  | raw (t : Text) : Alike (.raw t) (.raw t)
  | header (s s' : Stamp) (h : Header) : Alike (.header s h) (.header s' h)

inductive Operation.Alike : Operation → Operation → Prop where
  | post {p p' : Posting} (alike : p.Alike p') : Alike (.post p) (.post p')
  | close : Alike .close .close

def Operation.stamp? : Operation → Option Stamp
  | .post (.record s _ _) => some s
  | .post (.header s _) => some s
  | _ => none

/-- The times of both are written with the same number of characters. -/
def Operation.SameWidth (o o' : Operation) : Prop :=
  o.stamp?.map (·.written.length) = o'.stamp?.map (·.written.length)

structure LineAlikeUnder (limit : Option Nat) (l l' : Text) : Prop where
  alike : LineAlike l l'
  fits : limit = none ∨ (encodeLine l).length = (encodeLine l').length

structure Sink.AlikeUnder (limit : Option Nat) (s s' : Sink) : Prop where
  limit_left : s.limit = limit
  limit_right : s'.limit = limit
  faults_eq : s.faults = s'.faults
  sync_eq : s.syncFault = s'.syncFault
  writes_eq : s.writes = s'.writes
  bytes : SameButStamps s.bytes s'.bytes
  fits : limit = none ∨ s.bytes.length = s'.bytes.length

theorem Sink.alikeUnder_refl (s : Sink) : s.AlikeUnder s.limit s :=
  ⟨rfl, rfl, rfl, rfl, rfl, .refl s.bytes, Or.inr rfl⟩

theorem Sink.append_alike {limit : Option Nat} {s s' : Sink} (h : s.AlikeUnder limit s')
    {l l' : Text} (line : LineAlikeUnder limit l l') :
    (s.append (encodeLine l)).1 = (s'.append (encodeLine l')).1 ∧
      (s.append (encodeLine l)).2.AlikeUnder limit (s'.append (encodeLine l')).2 := by
  obtain ⟨left, right, faults, sync, writes, bytes, fits⟩ := h
  have same := congrFun faults s'.writes
  unfold append
  rw [writes, same]
  cases s'.faults s'.writes with
  | some f => exact ⟨rfl, left, right, faults, sync, rfl, bytes, fits⟩
  | none =>
    cases limit with
    | none =>
      simp only [left, right]
      exact ⟨trivial, rfl, rfl, faults, sync, rfl, .whole bytes line.alike, Or.inl rfl⟩
    | some most =>
      have size : s.bytes.length = s'.bytes.length := by simpa using fits
      have room : (encodeLine l).length = (encodeLine l').length := by simpa using line.fits
      simp only [left, right, size, room]
      split
      · refine ⟨rfl, rfl, rfl, faults, sync, rfl, .whole bytes line.alike, Or.inr ?_⟩
        simp [size, room]
      · refine ⟨rfl, rfl, rfl, faults, sync, rfl, .torn bytes line.alike _, Or.inr ?_⟩
        simp [size, room]

theorem alikeUnder_inStep (limit : Option Nat) :
    Journal.InStep (Journal.OnFiles (Sink.AlikeUnder limit)) (LineAlikeUnder limit) :=
  Journal.onFiles_inStep Sink.append_alike Sink.AlikeUnder.sync_eq

section Stamps

variable {limit : Option Nat} {s s' : Stamp}

theorem encode_stamp_length (s : Stamp) : (Utf8.encode s.written).length = s.written.length := by
  apply Utf8.encode_length_of_ascii
  intro c member
  exact Stamp.isStampChar_ascii (List.all_eq_true.mp s.written_stampChars c member)

theorem stamped_fits (width : limit = none ∨ s.written.length = s'.written.length)
    (front back : Text) :
    limit = none ∨ (encodeLine (front ++ (s.written ++ back))).length =
      (encodeLine (front ++ (s'.written ++ back))).length := by
  refine width.imp_right ?_
  intro same
  simp only [encodeLine_eq, Utf8.encode_append, List.length_append, encode_stamp_length, same]

theorem record_alikeUnder (width : limit = none ∨ s.written.length = s'.written.length)
    (level : Level) (message : Text) :
    LineAlikeUnder limit (Record.written ⟨s, level, message⟩)
      (Record.written ⟨s', level, message⟩) where
  alike := .record s s' level message
  fits := by
    rw [written_eq, written_eq]
    exact stamped_fits width ['['] _

theorem start_alikeUnder (width : limit = none ∨ s.written.length = s'.written.length) :
    LineAlikeUnder limit (lit "start: " ++ s.written) (lit "start: " ++ s'.written) where
  alike := .start s s'
  fits := by
    have fits := stamped_fits width (lit "start: ") []
    rwa [List.append_nil, List.append_nil] at fits

theorem folded_start (s : Stamp) :
    Text.folded (lit "start: " ++ s.written) = lit "start: " ++ s.written := by
  have marks : '\n' ∉ lit "start: " ∧ '\r' ∉ lit "start: " := by decide
  apply Text.folded_plain
  · rw [List.mem_append, not_or]
    exact ⟨marks.1, Stamp.not_mem_written rfl s⟩
  · rw [List.mem_append, not_or]
    exact ⟨marks.2, Stamp.not_mem_written rfl s⟩

theorem lineAlikeUnder_same (l : Text) : LineAlikeUnder limit l l := ⟨.same l, Or.inr rfl⟩

theorem header_alikeUnder (width : limit = none ∨ s.written.length = s'.written.length)
    (h : Header) :
    List.Forall₂ (LineAlikeUnder limit) (Posting.header s h).lines (Posting.header s' h).lines := by
  have start := start_alikeUnder width
  rw [Posting.lines_header, Posting.lines_header]
  simp only [Header.lines, List.map_cons, List.map_nil, folded_start, List.forall₂_cons,
    lineAlikeUnder_same, start, true_and]
  exact .nil

theorem Operation.Alike.matches {o o' : Operation} (alike : o.Alike o')
    (width : limit = none ∨ o.SameWidth o') : Matches (LineAlikeUnder limit) o o' := by
  cases alike with
  | close => exact .close
  | post alike =>
    constructor
    cases alike with
    | record s s' level message =>
      exact .cons (record_alikeUnder (width.imp_right Option.some.inj) level _) .nil
    | raw t => exact List.forall₂_same.mpr fun l _ => lineAlikeUnder_same l
    | header s s' h => exact header_alikeUnder (width.imp_right Option.some.inj) h

theorem operations_match {ops ops' : List Operation} (alike : List.Forall₂ Operation.Alike ops ops')
    (width : limit = none ∨ List.Forall₂ Operation.SameWidth ops ops') :
    List.Forall₂ (Matches (LineAlikeUnder limit)) ops ops' := by
  induction alike with
  | nil => exact .nil
  | cons first _ ih =>
    constructor
    · exact first.matches (width.imp_right fun all => (List.forall₂_cons.mp all).1)
    · exact ih (width.imp_right fun all => (List.forall₂_cons.mp all).2)

end Stamps

/-! ### What one log comes to -/

def Operation.Posted : Operation → Except FileFault Unit → Prop
  | post _, result => result = .ok ()
  | close, _ => True

def Mirror.Recording (m : Mirror) : Prop := ∀ k, m.takes k = true

namespace Journal

variable {j : Journal} {sink : Sink} {shown : List Text}

theorem perform_sound (h : j.Sound) (o : Operation) :
    (j.perform o).1 = .ok () ∧ (j.perform o).2.Sound := by
  cases o with
  | post p => exact post_sound h p
  | close => exact close_sound h

theorem performAll_sound (h : j.Sound) (ops : List Operation) :
    (j.performAll ops).1 = ops.map fun _ => .ok () := by
  induction ops generalizing j with
  | nil => rfl
  | cons o ops ih =>
    obtain ⟨first, still⟩ := perform_sound h o
    simp only [performAll, List.map_cons, first, ih still]

def Detached (sink : Sink) (j : Journal) : Prop := j.isOpen = false ∧ j.sink = sink

theorem Detached.writeAll (h : j.Detached sink) (ls : List Text) :
    (j.writeAll ls).2.Detached sink := by
  induction ls generalizing j with
  | nil => exact h
  | cons l ls ih =>
    unfold Journal.writeAll
    rw [write_of_closed h.1]
    exact ih h

theorem Detached.performAll (h : j.Detached sink) (ops : List Operation) :
    (j.performAll ops).2.Detached sink := by
  induction ops generalizing j with
  | nil => exact h
  | cons o ops ih =>
    apply ih
    cases o with
    | post p =>
      rw [perform, post_eq_writeAll]
      exact h.writeAll p.lines
    | close =>
      rw [perform, close_leaves]
      exact ⟨rfl, h.2⟩

theorem performAll_bytes (opened : j.isOpen = true) {ops : List Operation}
    (written : List.Forall₂ Operation.Posted ops (j.performAll ops).1) :
    (j.performAll ops).2.sink.bytes =
      j.sink.bytes ++ encodeLines ((untilClose ops).flatMap Posting.lines) := by
  induction ops generalizing j with
  | nil => exact (List.append_nil _).symm
  | cons o ops ih =>
    simp only [performAll, List.forall₂_cons] at written
    cases o with
    | post p =>
      obtain ⟨still, bytes⟩ := post_ok opened written.1
      show ((j.post p).2.performAll ops).2.sink.bytes = _
      rw [ih still written.2, bytes, untilClose, List.append_assoc, List.flatMap_cons]
      exact congrArg (j.sink.bytes ++ ·) List.flatMap_append.symm
    | close =>
      -- From here on nothing reaches the file, whatever is still put in.
      have closed : j.close.2.Detached j.sink := by
        rw [close_leaves]
        exact ⟨rfl, rfl⟩
      show (j.close.2.performAll ops).2.sink.bytes = _
      rw [(closed.performAll ops).2]
      exact (List.append_nil _).symm

def Shows (shown : List Text) (j : Journal) : Prop :=
  ∃ m, j.mirror = some m ∧ m.Recording ∧ m.shown = shown

theorem Shows.write (h : j.Shows shown) (l : Text) : (j.write l).2.Shows (shown ++ [l]) := by
  obtain ⟨m, mirror, recording, rfl⟩ := h
  refine ⟨(m.offer l).2, ?_, recording, ?_⟩
  · rw [write_mirror]
    unfold mirrorAfter
    rw [mirror]
    rfl
  · unfold Mirror.offer
    simp only [recording m.offered, if_true]

theorem Shows.writeAll (h : j.Shows shown) {ls : List Text}
    (written : (j.writeAll ls).1 = .ok ()) : (j.writeAll ls).2.Shows (shown ++ ls) := by
  induction ls generalizing j shown with
  | nil =>
    rw [List.append_nil]
    exact h
  | cons l ls ih =>
    have taken := h.write l
    unfold Journal.writeAll at written ⊢
    cases first : j.write l with
    | mk result after =>
      rw [first] at written taken
      cases result with
      | error f => contradiction
      | ok u =>
        rw [List.append_cons]
        exact ih taken written

theorem Shows.performAll (h : j.Shows shown) {ops : List Operation}
    (written : List.Forall₂ Operation.Posted ops (j.performAll ops).1) :
    (j.performAll ops).2.Shows (shown ++ ops.flatMap Operation.lines) := by
  induction ops generalizing j shown with
  | nil => simpa [Journal.performAll] using h
  | cons o ops ih =>
    simp only [Journal.performAll, List.forall₂_cons] at written
    rw [List.flatMap_cons, ← List.append_assoc]
    refine ih ?_ written.2
    cases o with
    | post p =>
      have posted := written.1
      rw [perform, post_eq_writeAll] at posted ⊢
      exact h.writeAll posted
    | close =>
      rw [perform, close_leaves, Operation.lines, List.append_nil]
      exact h

def withMirror (m : Option Mirror) (j : Journal) : Journal := { j with mirror := m }

end Journal

/-- What is done to a log goes the same way with any two mirrors: the results and the file are the
same, and differ in nothing but the stamps if it is done at other times. While what is put in is
written, the file goes on with the lines of what comes before the first close, and a mirror that
takes every line goes on with the lines of all of it. -/
theorem mirror_never_matters (j : Journal) (m m' : Option Mirror) (ops : List Operation) :
    ((j.withMirror m).performAll ops).1 = ((j.withMirror m').performAll ops).1 ∧
    ((j.withMirror m).performAll ops).2.sink = ((j.withMirror m').performAll ops).2.sink ∧
    (∀ ops', List.Forall₂ Operation.Alike ops ops' →
      j.sink.limit = none ∨ List.Forall₂ Operation.SameWidth ops ops' →
      ((j.withMirror m).performAll ops).1 = ((j.withMirror m').performAll ops').1 ∧
      SameButStamps ((j.withMirror m).performAll ops).2.sink.bytes
        ((j.withMirror m').performAll ops').2.sink.bytes) ∧
    (List.Forall₂ Operation.Posted ops ((j.withMirror m).performAll ops).1 →
      (j.isOpen = true → ((j.withMirror m).performAll ops).2.sink.bytes =
        j.sink.bytes ++ encodeLines ((untilClose ops).flatMap Posting.lines)) ∧
      ∀ r, m = some r → r.Recording →
        ((j.withMirror m).performAll ops).2.Shows (r.shown ++ ops.flatMap Operation.lines)) ∧
    (j.Sound → ((j.withMirror m).performAll ops).1 = ops.map fun _ => .ok ()) := by
  have file : (j.withMirror m).OnFiles Eq (j.withMirror m') := ⟨rfl, rfl⟩
  have alike : (j.withMirror m).OnFiles (Sink.AlikeUnder j.sink.limit) (j.withMirror m') :=
    ⟨rfl, j.sink.alikeUnder_refl⟩
  have same : List.Forall₂ (Matches Eq) ops ops := by
    refine List.forall₂_same.mpr ?_
    intro o _
    cases o with
    | post p => exact .post (List.forall₂_same.mpr fun _ _ => rfl)
    | close => exact .close
  obtain ⟨results, _, still⟩ := Journal.same_inStep.performAll file same
  refine ⟨results, still, ?_, ?_, ?_⟩
  · intro ops' other width
    obtain ⟨results, _, files⟩ := (alikeUnder_inStep j.sink.limit).performAll alike
      (operations_match other width)
    exact ⟨results, files.bytes⟩
  · intro written
    constructor
    · intro opened
      exact Journal.performAll_bytes (j := j.withMirror m) opened written
    · intro r mirror recording
      exact Journal.Shows.performAll ⟨r, mirror, recording, rfl⟩ written
  · intro sound
    exact Journal.performAll_sound (j := j.withMirror m) sound ops

def deaf : Mirror := { takes := fun _ => false, flushes := fun _ => false }

def evening (s : Stamp) : List Operation :=
  [.post (.record s .warn (lit "sold out")), .close, .post (.raw (lit "after\nclose"))]

def midnight : Stamp := ⟨⟨1970, 1, 1, 23, 59, 59⟩, by decide⟩

def short : Journal := { sink := { limit := some 30 } }

theorem evening_mirrored :
    let shown := [lit "[1970-01-01 00:00:00] WARN: sold out", lit "after / close"]
    let whole := (({} : Journal).withMirror (some {})).performAll (evening .epoch)
    let torn := (short.withMirror (some {})).performAll (evening .epoch)
    let later := (short.withMirror (some deaf)).performAll (evening midnight)
    whole.1 = [.ok (), .ok (), .ok ()] ∧
    whole.2.sink.bytes = encodeLines (shown.take 1) ∧
    whole.2.Shows shown ∧
    torn.1 = [.error .tooLarge, .ok (), .ok ()] ∧
    torn.1 = later.1 ∧
    SameButStamps torn.2.sink.bytes later.2.sink.bytes := by
  intro shown whole torn later
  have sound : ({} : Journal).Sound := ⟨rfl, fun _ => rfl, rfl⟩
  have lines : (evening .epoch).flatMap Operation.lines = shown := by decide +kernel
  obtain ⟨_, _, _, goes, well⟩ := mirror_never_matters {} (some {}) none (evening .epoch)
  have results := well sound
  have posted : List.Forall₂ Operation.Posted (evening .epoch) whole.1 := by
    rw [results]
    exact .cons rfl (.cons trivial (.cons rfl .nil))
  obtain ⟨bytes, shows⟩ := goes posted
  have recorded := shows {} rfl fun _ => rfl
  rw [lines] at recorded
  have alike : List.Forall₂ Operation.Alike (evening .epoch) (evening midnight) :=
    .cons (.post (.record ..)) (.cons .close (.cons (.post (.raw _)) .nil))
  have wide : Stamp.epoch.written.length = midnight.written.length := by
    rw [Stamp.written_length (by decide) (by decide), Stamp.written_length (by decide) (by decide)]
  have width : List.Forall₂ Operation.SameWidth (evening .epoch) (evening midnight) :=
    .cons (congrArg some wide) (.cons rfl (.cons rfl .nil))
  obtain ⟨_, _, apart, _, _⟩ := mirror_never_matters short (some {}) (some deaf) (evening .epoch)
  obtain ⟨same, files⟩ := apart (evening midnight) alike (Or.inr width)
  refine ⟨results, ?_, recorded, by decide +kernel, same, files⟩
  exact (bytes rfl).trans (by decide +kernel)

end BookingRetry.Log
