import BookingRetry.Proofs.Log.Journal
import BookingRetry.Proofs.Run.Course

/-!
A run whose log file takes everything, and whose log nothing breaks in a call or a sleep, does not
fail.
-/
namespace BookingRetry.Run

structure World.KeepsLog (w : World) : Prop where
  calls : ∀ k now c, (w.call k now c).breaksLog = false
  sleeps : ∀ k now d, (w.sleep k now d).breaksLog = false

def State.Sound (st : State) : Prop :=
  st.scene.journal.Sound ∧ ∀ f, st.phase ≠ .failed f

variable {plan : Plan} {w : World} {s : Scene} {st st' : State}

theorem record_sound (h : s.journal.Sound) (level : Log.Level) (message : Text) :
    (s.record w level message).1 = .ok () ∧ (s.record w level message).2.journal.Sound :=
  Log.Journal.write_sound h _

theorem noting_sound {level : Log.Level} {message : Text} {next : Phase} (h : s.journal.Sound)
    (goes : ∀ f, next ≠ .failed f) : (noting w level message next s).Sound := by
  obtain ⟨written, sound⟩ := @record_sound w s h level message
  rw [noting_of_ok written]
  exact ⟨sound, goes⟩

theorem announce_sound {p : Progress} (h : s.journal.Sound) : (Plan.announce w p s).Sound := by
  have announced : (p.announced w s).1 = .ok () ∧ (p.announced w s).2.journal.Sound :=
    record_sound h _ _
  rw [announce_of_ok announced.1]
  exact ⟨announced.2, nofun⟩

theorem pausing_sound {d : Span} {p : Progress} (h : s.journal.Sound)
    (live : s.cancelled = false) : (pausing d p s).Sound := by
  rcases pausing_cases d p live with ⟨_, eq⟩ | ⟨_, eq⟩ <;> rw [eq] <;> exact ⟨h, nofun⟩

theorem writeFinal_sound (h : s.journal.Sound) (o : Outcome) :
    (Plan.writeFinal w o s).1 = .ok () ∧ (Plan.writeFinal w o s).2.journal.Sound := by
  unfold Plan.writeFinal
  cases o with
  | interrupted n =>
    obtain ⟨written, sound⟩ := @record_sound w s h .warn interruptedMessage
    cases first : s.record w .warn interruptedMessage with
    | mk result after =>
      rw [first] at written sound
      cases written
      exact record_sound sound _ _
  | success | timeout | fatalInput | exhausted => exact record_sound h _ _

theorem conclude_sound (h : s.journal.Sound) (o : Outcome) :
    (Plan.conclude w o s).1 = .ok () ∧ (Plan.conclude w o s).2.journal.Sound := by
  obtain ⟨written, sound⟩ := @writeFinal_sound w s h o
  rw [conclude_eq_close]
  cases told : Plan.writeFinal w o s with
  | mk result after =>
    rw [told] at written sound
    cases written
    exact Log.Journal.close_sound sound

theorem close_sound {o : Outcome} {attempts : List Attempt} {wraps : Nat} {startedAt : Span}
    (h : s.journal.Sound) : (Plan.close w o attempts wraps startedAt s).Sound := by
  obtain ⟨written, sound⟩ := @conclude_sound w s h o
  rcases close_cases w o attempts wraps startedAt s with ⟨_, eq⟩ | ⟨f, failed, _⟩
  · rw [eq]
    exact ⟨sound, nofun⟩
  · rw [written] at failed
    contradiction

theorem start_sound (h : s.journal.Sound) : (plan.start w s).Sound := by
  rcases start_cases plan w s with ⟨_, eq⟩ | ⟨rotation, _, ⟨_, eq⟩ | ⟨f, failed, _⟩⟩
  · rw [eq]
    exact noting_sound h nofun
  · rw [eq]
    exact ⟨(Log.Journal.rawAll_sound h _).2, nofun⟩
  · have written := (Log.Journal.rawAll_sound h (plan.header.lines (w.stamp (s.read w).stamps))).1
    have same : ((s.read w).header w plan.header).1 = .ok () := written
    rw [same] at failed
    contradiction

theorem following_goes (p : Progress) (number : Nat) (verdict : Verdict) (f : FileFault) :
    p.following number verdict ≠ .failed f := by
  cases verdict <;> nofun

theorem sound_move (keeps : w.KeepsLog) (move : Move plan w st st') (h : st.Sound) :
    st'.Sound := by
  obtain ⟨sound, goes⟩ := h
  cases move with
  | unlimited | inBudget | interrupted | cleared | movedOn | untallied | passGoesOn
  | wokenUnlimited | wokenInTime => exact ⟨sound, nofun⟩
  | spent | wrapped | tallied | exhausted | late => exact noting_sound sound nofun
  | held live busy => exact pausing_sound sound live
  | waits live bounded early => exact pausing_sound sound live
  | announced live => exact announce_sound sound
  | answered replied judged passed =>
    refine noting_sound ?_ (following_goes _ _ _)
    rw [passed, replied]
    simpa [Scene.heard, Scene.after, Scene.read, keeps.calls] using sound
  | roused napped cancels =>
    refine ⟨?_, nofun⟩
    rw [napped]
    simpa [Scene.rested, Scene.after, keeps.sleeps] using sound
  | slept napped whole =>
    refine ⟨?_, nofun⟩
    rw [napped]
    simpa [Scene.rested, Scene.after, keeps.sleeps] using sound
  | closed => exact close_sound sound
  | rests => exact ⟨sound, goes⟩
  | stuck => exact ⟨sound, goes⟩

/-- With a sound file, in a world that keeps the log, no log operation of a run fails. -/
theorem logHolds_of_sound (keeps : w.KeepsLog) (h : s.journal.Sound) : plan.LogHolds w s := by
  intro n
  have start : (plan.start w s).Sound := start_sound h
  have sound := Plan.run_keeps start (fun _ _ => sound_move keeps) n
  split
  · rename_i f failed
    exact sound.2 f failed
  · exact (conclude_sound sound.1 _).1
  · trivial

theorem logHoldsUnder_of_sound (keeps : w.KeepsLog) (h : s.journal.Sound) (alarms : Nat → Bool) :
    plan.LogHoldsUnder w alarms s := by
  intro n
  have sound : (plan.alarmedRun w alarms n s).Sound :=
    Plan.alarmedRun_keeps (start_sound h) (fun _ _ sound => sound)
      (fun _ _ move => sound_move keeps move) n
  have alarmed : ((plan.alarmedRun w alarms n s).alarmed (alarms n)).scene.journal.Sound :=
    sound.1
  exact ⟨sound.2, fun o _ _ _ _ => (conclude_sound alarmed o).1⟩

end BookingRetry.Run
