import BookingRetry.Proofs.Observer.Reuse
import BookingRetry.Proofs.Run.Behind
import BookingRetry.Proofs.Run.Rendering

/-!
A log that several runs write to, one after the other. A tail takes the last marker in it for the
end of the run, so it finds a run ended from its marker on; but until then it finds the state in
which the runs before it left the log.
-/
namespace BookingRetry.Run

structure Plan.Headed (plan : Plan) (w : World) (before : Scene) : Prop where
  somebody : plan.candidates ≠ []
  written : ((before.read w).header w plan.header).1 = .ok ()

/-- So many lines behind its header the run has not written its marker. -/
def UnderWay (later : List Text) (marked : Option Outcome) (k : Nat) : Prop :=
  k ≤ later.length ∧ (marked.isSome = true → k < later.length)

/-- A tail finds the last of the runs in a log under way until its marker, and from then on as it
ended. -/
structure LastRunTold (earlier : Bytes) (header later : List Text) (marked : Option Outcome) :
    Prop where
  running : ∀ k, UnderWay later marked k → ∀ shown,
    (TailReport.ofBytes shown
      (earlier ++ Log.encodeLines (header ++ later.take k))).finalState = none
  ended : ∀ o, marked = some o → ∀ shown,
    (TailReport.ofBytes shown (earlier ++ Log.encodeLines (header ++ later))).finalState =
      some o.finalState

variable {plan : Plan} {w : World} {alarms : Nat → Bool} {before : Scene}

/-! ### On an empty file -/

def ClosesWith (later : List Text) : Option Outcome → Prop
  | none => ∀ l ∈ later, Unmarked l
  | some o => ∃ body last, later = body ++ [last] ∧ (∀ l ∈ body, Unmarked l) ∧
      FinalState.ofLine? last = some o.finalState

structure Opened (plan : Plan) (w : World) (before : Scene) (first : Text) (more : List Text) :
    Prop where
  bytes_eq : (plan.start w before).scene.bytes = Log.encodeLines (first :: more)
  unmarked : ∀ l ∈ first :: more, Unmarked l
  fits : (plan.start w before).scene.journal.sink.Fits
  header_eq : plan.Headed w before → first :: more = before.headerLines plan w

theorem headerLines_eq (plan : Plan) (w : World) (before : Scene) :
    ∃ more, before.headerLines plan w = Log.rule :: more := ⟨_, rfl⟩

theorem start_written (plan : Plan) (w : World) (before : Scene) :
    (∃ f, (plan.start w before).phase = .failed f) ∨
      (plan.candidates = [] ∧ ∃ line, Unmarked line ∧ (before.journal.write line).1 = .ok () ∧
        (plan.start w before).scene.journal = (before.journal.write line).2) ∨
      (((before.read w).header w plan.header).1 = .ok () ∧
        (plan.start w before).scene = ((before.read w).header w plan.header).2) := by
  rcases start_cases plan w before with ⟨nobody, eq⟩ | ⟨_, _, ⟨written, eq⟩ | ⟨f, _, eq⟩⟩
  · rcases noting_cases w .crit (preflightMessage noCandidates) (.closing
      (.fatalInput 0 noCandidates) [] 0 (before.read w).now) (before.read w) with
      ⟨written, noted⟩ | ⟨f, _, noted⟩ <;> rw [eq, noted]
    · exact .inr (.inl ⟨nobody, _, unmarked_record rfl, written, rfl⟩)
    · exact .inl ⟨f, rfl⟩
  · rw [eq]
    exact .inr (.inr ⟨written, rfl⟩)
  · exact .inl ⟨f, by rw [eq]⟩

theorem start_opens (opened : before.journal.isOpen = true) (empty : before.bytes = [])
    (fits : before.journal.sink.Fits) :
    (∃ f, (plan.start w before).phase = .failed f) ∨
      ∃ first more, Opened plan w before first more := by
  rcases start_written plan w before with
    failed | ⟨nobody, line, unmarked, written, eq⟩ | ⟨written, eq⟩
  · exact .inl failed
  · obtain ⟨_, bytes⟩ := Log.Journal.write_ok opened written
    refine .inr ⟨line, [], ?_, List.forall_mem_singleton.mpr unmarked, ?_,
      fun headed => absurd nobody headed.somebody⟩
    · have own : (plan.start w before).scene.bytes = before.bytes ++ Log.encodeLine line :=
        (congrArg (·.sink.bytes) eq).trans bytes
      rw [own, empty, Log.encodeLines, List.flatMap_singleton]
      rfl
    · rw [eq]
      exact Log.Journal.write_fits fits _
  · obtain ⟨_, bytes⟩ := Log.Journal.rawAll_ok opened written
    obtain ⟨more, lines⟩ := headerLines_eq plan w before
    refine .inr ⟨Log.rule, more, ?_, ?_, ?_, fun _ => lines.symm⟩
    · rw [eq, ← lines]
      refine bytes.trans ?_
      show before.bytes ++ _ = _
      rw [empty]
      rfl
    · intro l member
      rw [← lines] at member
      obtain ⟨t, inside, rfl⟩ := List.mem_map.mp member
      exact Log.Header.lines_unmarked _ _ t inside
    · rw [eq]
      exact Log.Journal.rawAll_fits fits _

theorem fresh_log (opened : before.journal.isOpen = true) (empty : before.bytes = [])
    {first : Text} {more : List Text} (start : Opened plan w before first more) (n : Nat)
    (counted : ((plan.alarmedRun w alarms n before).scene.callsSince before).length ≤
      Numeral.maxWord) :
    ∃ later part, Log.Holds (plan.alarmedRun w alarms n before).scene.bytes
        (first :: more ++ later) part ∧
      ClosesWith later (plan.markedUnder? w alarms before n) ∧
      ((plan.markedUnder? w alarms before n).isSome = true → part = []) := by
  obtain ⟨_, telling⟩ := @alarmedRun_tells plan w alarms before opened empty n
  obtain ⟨st, onto⟩ := @alarmedRun_onto plan w before start.fits alarms n
  have bytes : (plan.alarmedRun w alarms n before).scene.bytes =
      Log.encodeLines (first :: more) ++ st.scene.bytes := by
    rw [onto, ← start.bytes_eq]
    rfl
  have single : ∀ l ∈ first :: more, Text.Single l := fun l member =>
    (start.unmarked l member).single
  have log := telling.log
  cases marked : plan.markedUnder? w alarms before n with
  | none =>
    rw [marked] at log
    obtain ⟨whole, part, holds, silent⟩ := log
    obtain ⟨later, rfl⟩ := Follow.holds_starts holds single bytes
    exact ⟨later, part, holds, fun l member => silent l (List.mem_append_right _ member), nofun⟩
  | some o =>
    rw [marked] at log
    obtain ⟨ended, count⟩ := log
    obtain ⟨body, last, holds, states, silent⟩ := marker_last ended (count ▸ counted)
    obtain ⟨later, split⟩ := Follow.holds_starts holds single bytes
    refine ⟨later, [], split ▸ holds, ?_, fun _ => rfl⟩
    rcases List.eq_nil_or_concat later with rfl | ⟨front, l, rfl⟩
    · rw [List.append_nil] at split
      have member : last ∈ first :: more := by simp [split]
      rw [(start.unmarked last member).silent] at states
      contradiction
    · rw [List.concat_eq_append, ← List.append_assoc] at split
      obtain ⟨fronts, lasts⟩ := List.append_inj' split rfl
      cases lasts
      refine ⟨front, last, List.concat_eq_append, fun t member => silent t ?_, states⟩
      exact fronts ▸ List.mem_append_right _ member

/-! ### On a file that holds something -/

theorem markedUnder?_behind (front : Bytes) (s : Scene) (n : Nat) :
    plan.markedUnder? w alarms (s.behind front) n = plan.markedUnder? w alarms s n := by
  induction n with
  | zero => rfl
  | succ n ih =>
    rw [Plan.markedUnder?, Plan.markedUnder?, ih, alarmedRun_behind]
    exact congrArg _ (marking?_behind ((plan.alarmedRun w alarms n s).alarmed (alarms n)))

theorem Plan.Headed.goes (headed : plan.Headed w before) :
    ∃ p, (plan.start w before).phase = .going .budgeting p := by
  rcases start_cases plan w before with ⟨nobody, _⟩ | ⟨_, _, ⟨_, eq⟩ | ⟨f, failed, _⟩⟩
  · exact absurd nobody headed.somebody
  · exact ⟨_, by rw [eq]⟩
  · rw [headed.written] at failed
    contradiction

theorem unheaded_of_failed {f : FileFault} (failed : (plan.start w before).phase = .failed f) :
    ¬plan.Headed w before := by
  intro headed
  obtain ⟨p, going⟩ := headed.goes
  rw [failed] at going
  contradiction

theorem start_full (opened : before.journal.isOpen = true) (full : ¬before.journal.sink.Fits) :
    ∃ f, (plan.start w before).phase = .failed f := by
  have refused (line : Text) : (before.journal.write line).1 ≠ .ok () := by
    obtain ⟨f, error⟩ := Log.Journal.write_full opened full line
    rw [error]
    nofun
  have unwritten : ((before.read w).header w plan.header).1 ≠ .ok () := by
    show (Log.Journal.rawAll (Log.rule :: _) before.journal).1 ≠ .ok ()
    have first := refused (Text.folded Log.rule)
    unfold Log.Journal.rawAll Log.Journal.raw
    split
    · rename_i written
      rw [written] at first
      contradiction
    · assumption
  rcases start_written plan w before with failed | ⟨_, line, _, written, _⟩ | ⟨written, _⟩
  · exact failed
  · exact absurd written (refused line)
  · exact absurd written unwritten

theorem unmarked_of_failed {f : FileFault} (failed : (plan.start w before).phase = .failed f)
    (n : Nat) : plan.markedUnder? w alarms before n = none := by
  induction n with
  | zero => rfl
  | succ n ih =>
    have ended : (plan.alarmedRun w alarms 0 before).Over := .inr ⟨f, failed⟩
    obtain ⟨cancels, same⟩ := Plan.alarmedRun_of_over (Nat.zero_le n) ended
    have phase : ((plan.alarmedRun w alarms n before).alarmed (alarms n)).phase = .failed f := by
      rw [same]
      exact failed
    rw [Plan.markedUnder?, ih, State.marking?, phase]
    rfl

/-- What a run adds to its log file: the lines of its first step, and what it writes behind them. -/
structure Added (plan : Plan) (w : World) (before : Scene) (marked : Option Outcome)
    (bytes : Bytes) (first : Text) (more later : List Text) (part : Bytes) : Prop where
  bytes_eq : bytes = before.bytes ++ (Log.encodeLines (first :: more ++ later) ++ part)
  single : ∀ l ∈ first :: more ++ later, Text.Single l
  open_ended : Follow.lineFeed ∉ part
  unmarked : ∀ l ∈ first :: more, Unmarked l
  closes : ClosesWith later marked
  whole : marked.isSome = true → part = []
  header_eq : plan.Headed w before → first :: more = before.headerLines plan w

theorem run_adds (opened : before.journal.isOpen = true) (n : Nat)
    (counted : ((plan.alarmedRun w alarms n before).scene.callsSince before).length ≤
      Numeral.maxWord) :
    (plan.markedUnder? w alarms before n = none ∧ ¬plan.Headed w before) ∨
      ∃ first more later part, Added plan w before (plan.markedUnder? w alarms before n)
        (plan.alarmedRun w alarms n before).scene.bytes first more later part := by
  by_cases fits : before.journal.sink.Fits
  · have same : before.emptied.behind before.bytes = before := emptied_behind fits
    have runs : plan.alarmedRun w alarms n (before.emptied.behind before.bytes) =
        (plan.alarmedRun w alarms n before.emptied).behind before.bytes :=
      alarmedRun_behind before.emptied alarms n
    have marks : plan.markedUnder? w alarms (before.emptied.behind before.bytes) n =
        plan.markedUnder? w alarms before.emptied n :=
      markedUnder?_behind before.bytes before.emptied n
    rw [same] at runs marks
    have heads : plan.Headed w before → plan.Headed w before.emptied := by
      rintro ⟨somebody, written⟩
      refine ⟨somebody, ?_⟩
      rw [← same, read_behind, header_behind] at written
      exact written
    have opened : before.emptied.journal.isOpen = true := opened
    rw [marks, runs]
    rcases start_opens opened rfl (Log.Sink.emptied_fits _) with
      ⟨f, failed⟩ | ⟨first, more, start⟩
    · exact .inl ⟨unmarked_of_failed failed n,
        fun headed => unheaded_of_failed failed (heads headed)⟩
    · have counted : ((plan.alarmedRun w alarms n before.emptied).scene.callsSince
          before.emptied).length ≤ Numeral.maxWord := by
        rw [runs] at counted
        exact counted
      obtain ⟨later, part, holds, closes, whole⟩ := fresh_log opened rfl start n counted
      refine .inr ⟨first, more, later, part, ?_, holds.single, holds.open_ended, start.unmarked,
        closes, whole, fun headed => start.header_eq (heads headed)⟩
      exact congrArg (before.bytes ++ ·) holds.bytes_eq
  · obtain ⟨f, failed⟩ := @start_full plan w before opened fits
    exact .inl ⟨unmarked_of_failed failed n, unheaded_of_failed failed⟩

section Tail

variable {marked : Option Outcome} {bytes part : Bytes} {first : Text} {more later : List Text}

theorem ClosesWith.front (closes : ClosesWith later marked) {k : Nat}
    (underWay : UnderWay later marked k) : ∀ l ∈ later.take k, Unmarked l := by
  intro l member
  cases marked with
  | none => exact closes l (List.mem_of_mem_take member)
  | some o =>
    obtain ⟨body, last, rfl, silent, _⟩ := closes
    have short := underWay.2 rfl
    rw [List.length_append, List.length_singleton] at short
    rw [List.take_append_of_le_length (Nat.le_of_lt_succ short)] at member
    exact silent l (List.mem_of_mem_take member)

theorem ClosesWith.start (closes : ClosesWith later marked) : UnderWay later marked 0 := by
  refine ⟨Nat.zero_le _, fun some => ?_⟩
  obtain ⟨o, rfl⟩ := Option.isSome_iff_exists.mp some
  obtain ⟨body, last, rfl, _⟩ := closes
  simp

theorem Added.under_way (h : Added plan w before marked bytes first more later part)
    (headed : plan.Headed w before) {k : Nat} (underWay : UnderWay later marked k) (shown : Nat) :
    (TailReport.ofBytes shown (before.bytes ++
      Log.encodeLines (before.headerLines plan w ++ later.take k))).finalState =
      Follow.stateOfLines? before.bytes := by
  obtain ⟨lines, header⟩ := headerLines_eq plan w before
  have silent : ∀ l ∈ Log.rule :: (lines ++ later.take k), Unmarked l := by
    rw [← List.cons_append, ← header, ← h.header_eq headed]
    exact List.forall_mem_append.mpr ⟨h.unmarked, h.closes.front underWay⟩
  have alone : (TailReport.ofBytes shown
      (Log.encodeLine Log.rule ++ Log.encodeLines (lines ++ later.take k))).finalState = none := by
    have new := TailReport.finalState_encodeLines (fun l member => (silent l member).single) shown
    rw [TailReport.lastState?_unmarked silent] at new
    exact new
  rw [header, List.cons_append]
  have reused := Follow.finalState_reused before.bytes (Log.encodeLines (lines ++ later.take k))
    shown
  rw [alone, Option.none_or] at reused
  exact reused

theorem Added.ended {o : Outcome}
    (h : Added plan w before (some o) bytes first more later part) :
    Follow.leftover bytes = [] ∧ Follow.stateOfLines? bytes = some o.finalState := by
  obtain ⟨body, last, rfl, _, states⟩ := h.closes
  have line : Follow.IsLine (Log.encodeLine first) :=
    Follow.isLine_encodeLine (h.unmarked first List.mem_cons_self).single
  have single : ∀ t ∈ (more ++ body) ++ [last], Text.Single t := by
    intro t member
    refine h.single t (List.mem_cons_of_mem _ ?_)
    simpa using member
  have split : bytes = before.bytes ++
      (Log.encodeLine first ++ Log.encodeLines ((more ++ body) ++ [last])) := by
    rw [h.bytes_eq, h.whole rfl, List.append_nil, List.cons_append, List.append_assoc]
    rfl
  rw [split]
  exact Follow.stateOfLines?_last before.bytes line single states

end Tail

/-- The log that a run leaves behind with its marker states the end of the run. -/
theorem stateOfLines?_of_marked (opened : before.journal.isOpen = true) (n : Nat)
    (counted : ((plan.alarmedRun w alarms n before).scene.callsSince before).length ≤
      Numeral.maxWord) {o : Outcome} (marked : plan.markedUnder? w alarms before n = some o) :
    Follow.leftover (plan.alarmedRun w alarms n before).scene.bytes = [] ∧
      Follow.stateOfLines? (plan.alarmedRun w alarms n before).scene.bytes = some o.finalState := by
  rcases @run_adds plan w alarms before opened n counted with
    ⟨unmarked, _⟩ | ⟨first, more, later, part, added⟩
  · rw [unmarked] at marked
    contradiction
  · rw [marked] at added
    exact added.ended

theorem run_found_ended {earlierPlan : Plan} {earlierWorld : World} {earlierAlarms : Nat → Bool}
    {atFirst : Scene} {m : Nat} {o : Outcome} (openedFirst : atFirst.journal.isOpen = true)
    (countedFirst : ((earlierPlan.alarmedRun earlierWorld earlierAlarms m atFirst).scene.callsSince
      atFirst).length ≤ Numeral.maxWord)
    (marked : earlierPlan.markedUnder? earlierWorld earlierAlarms atFirst m = some o)
    (taken : before.bytes =
      (earlierPlan.alarmedRun earlierWorld earlierAlarms m atFirst).scene.bytes)
    (opened : before.journal.isOpen = true) (headed : plan.Headed w before) (n : Nat)
    (counted : ((plan.alarmedRun w alarms n before).scene.callsSince before).length ≤
      Numeral.maxWord) :
    ∃ later part, (plan.alarmedRun w alarms n before).scene.bytes =
        before.bytes ++ (Log.encodeLines (before.headerLines plan w ++ later) ++ part) ∧
      ∀ k, UnderWay later (plan.markedUnder? w alarms before n) k → ∀ shown,
        (TailReport.ofBytes shown (before.bytes ++
          Log.encodeLines (before.headerLines plan w ++ later.take k))).finalState =
          some o.finalState := by
  have left := (stateOfLines?_of_marked openedFirst m countedFirst marked).2
  rw [← taken] at left
  rcases @run_adds plan w alarms before opened n counted with
    ⟨_, unheaded⟩ | ⟨first, more, later, part, added⟩
  · exact absurd headed unheaded
  · refine ⟨later, part, ?_, fun k underWay shown => ?_⟩
    · rw [← added.header_eq headed]
      exact added.bytes_eq
    · rw [added.under_way headed underWay shown, left]

/-- A log that runs write to one after the other. Whatever the earlier ones left, a tail finds the
last one ended from its marker on; and at every line between its header and its marker the tail
finds what the earlier log states, so it finds the run under way exactly if that states no end.
Attempts are counted in a word. -/
theorem last_run_told_iff (opened : before.journal.isOpen = true) (n : Nat)
    (counted : ((plan.alarmedRun w alarms n before).scene.callsSince before).length ≤
      Numeral.maxWord) :
    (∀ o, plan.markedUnder? w alarms before n = some o → ∀ shown,
      (TailReport.ofBytes shown (plan.alarmedRun w alarms n before).scene.bytes).finalState =
        some o.finalState) ∧
    (plan.Headed w before → ∃ later part,
      (plan.alarmedRun w alarms n before).scene.bytes =
        before.bytes ++ (Log.encodeLines (before.headerLines plan w ++ later) ++ part) ∧
      (∀ l ∈ later, Text.Single l) ∧ Follow.lineFeed ∉ part ∧
      (∀ k, UnderWay later (plan.markedUnder? w alarms before n) k → ∀ shown,
        (TailReport.ofBytes shown (before.bytes ++
          Log.encodeLines (before.headerLines plan w ++ later.take k))).finalState =
          Follow.stateOfLines? before.bytes) ∧
      (LastRunTold before.bytes (before.headerLines plan w) later
        (plan.markedUnder? w alarms before n) ↔ Follow.stateOfLines? before.bytes = none)) := by
  rcases @run_adds plan w alarms before opened n counted with
    ⟨unmarked, unheaded⟩ | ⟨first, more, later, part, added⟩
  · rw [unmarked]
    exact ⟨nofun, fun headed => absurd headed unheaded⟩
  have ended : ∀ o, plan.markedUnder? w alarms before n = some o → ∀ shown,
      (TailReport.ofBytes shown (plan.alarmedRun w alarms n before).scene.bytes).finalState =
        some o.finalState := by
    intro o marked shown
    obtain ⟨left, states⟩ := stateOfLines?_of_marked opened n counted marked
    rw [Follow.finalState_eq, left, states]
    rfl
  refine ⟨ended, fun headed => ⟨later, part, ?_, ?_, added.open_ended, ?_, ?_⟩⟩
  · rw [← added.header_eq headed]
    exact added.bytes_eq
  · exact fun l member => added.single l (List.mem_append_right _ member)
  · exact fun k underWay shown => added.under_way headed underWay shown
  · constructor
    · intro told
      have first := added.closes.start
      rw [← added.under_way headed first 0]
      exact told.running 0 first 0
    · intro silent
      refine ⟨fun k underWay shown => ?_, fun o marked shown => ?_⟩
      · rw [added.under_way headed underWay shown, silent]
      · have all := ended o marked shown
        have whole : part = [] := added.whole (by rw [marked]; rfl)
        rwa [added.bytes_eq, added.header_eq headed, whole, List.append_nil] at all

def brokenOff : Scene where
  journal := { sink := { bytes := Utf8.encode (lit "[2026-10-19 06:00:00] INFO: bro") } }

theorem broken_off_told :
    (brokenOff.journal.isOpen = true ∧
      ((rehearsal.alarmedRun rehearsalWorld (fun _ => false) 40 brokenOff).scene.callsSince
        brokenOff).length ≤ Numeral.maxWord) ∧
    ∃ later part,
      (rehearsal.alarmedRun rehearsalWorld (fun _ => false) 40 brokenOff).scene.bytes =
        brokenOff.bytes ++
          (Log.encodeLines (brokenOff.headerLines rehearsal rehearsalWorld ++ later) ++ part) ∧
      LastRunTold brokenOff.bytes (brokenOff.headerLines rehearsal rehearsalWorld) later
        (rehearsal.markedUnder? rehearsalWorld (fun _ => false) brokenOff 40) := by
  have counted : ((rehearsal.alarmedRun rehearsalWorld (fun _ => false) 40
      brokenOff).scene.callsSince brokenOff).length ≤ Numeral.maxWord := by decide +kernel
  have headed : rehearsal.Headed rehearsalWorld brokenOff := ⟨by decide, rfl⟩
  have silent : Follow.stateOfLines? brokenOff.bytes = none := by decide +kernel
  obtain ⟨later, part, bytes, _, _, _, told_iff⟩ :=
    (@last_run_told_iff rehearsal rehearsalWorld (fun _ => false) brokenOff rfl 40 counted).2 headed
  exact ⟨⟨rfl, counted⟩, later, part, bytes, told_iff.mpr silent⟩

def Scene.reopened (s : Scene) : Scene where
  journal := { sink := { bytes := s.bytes } }

theorem rehearsal_found_finished :
    (∃ r, (rehearsal.run rehearsalWorld 40 {}).phase = .finished r) ∧
    let again := (rehearsal.run rehearsalWorld 40 {}).scene.reopened
    rehearsal.Headed rehearsalWorld again ∧
      rehearsal.markedUnder? rehearsalWorld (fun _ => false) again 0 = none ∧
      (TailReport.ofBytes defaultTailLines
        (rehearsal.alarmedRun rehearsalWorld (fun _ => false) 0 again).scene.bytes).finalState =
        some ⟨lit "SUCCESS", 3⟩ := by
  refine ⟨⟨_, rfl⟩, ⟨by decide, rfl⟩, rfl, ?_⟩
  decide +kernel

end BookingRetry.Run
