import BookingRetry.Proofs.Run.Course

/-!
What a run writes down about its attempts, and how that agrees with the calls it makes, with its
walk round the candidates and with its outcome. Attempts, walk and outcome are kept in separate
places; one account ties them together, and every move keeps it.
-/
namespace BookingRetry

theorem MarkerSet.verdict_cases (m : MarkerSet) (answer : Answer) :
    match m.verdict answer with
    | .success detail => answer = .reserved detail
    | .fatal kind message => kind = .input ∧ answer = .failed message
    | .retryable _ message => answer = .failed message := by
  cases answer with
  | reserved detail => rfl
  | failed message =>
    cases kind : m.kindIn .unicode message <;> simp [verdict, verdictIn, kind]

namespace Run

/-- The candidate whose turn it is after `i` attempts. -/
def Plan.turn? (plan : Plan) (i : Nat) : Option Candidate :=
  plan.candidates[i % plan.candidates.length]?

def AllRetryable (attempts : List Attempt) : Prop :=
  ∀ a ∈ attempts, ∃ kind, a.result = .retryable kind

section Account

variable (plan : Plan) (w : World) (before : Scene)

def Plan.answerAt (i : Nat) (c : Candidate) (startedAt : Span) : Answer :=
  (w.call (before.calls.length + i) startedAt c).answer

/-- The attempt after `i` others, and the call behind it. -/
structure Entry (i : Nat) (call : Candidate × Nat) (a : Attempt) : Prop where
  turn : plan.turn? i = some call.1
  call_number : call.2 = i + 1
  number_eq : a.number = i + 1
  index_eq : a.index = i % plan.candidates.length
  label_eq : a.label = call.1.label
  result_eq :
    a.result = (plan.markers.verdict (Plan.answerAt w before i call.1 a.startedAt)).result

/-- The calls made since a scene are told by the attempts, one by one. -/
structure Account (calls : List (Candidate × Nat)) (attempts : List Attempt) : Prop where
  length_eq : calls.length = before.calls.length + attempts.length
  entry : ∀ i call a, calls[before.calls.length + i]? = some call → attempts[i]? = some a →
    Entry plan w before i call a

/-- The outcomes that attempts can end in. -/
inductive Justified : Outcome → List Attempt → Prop where
  | preflight (nobody : plan.candidates = []) : Justified (.fatalInput 0 noCandidates) []
  | success {earlier a c detail} (retried : AllRetryable earlier)
      (turn : plan.turn? earlier.length = some c)
      (answered : Plan.answerAt w before earlier.length c a.startedAt = .reserved detail)
      (result : a.result = .success) :
      Justified (.success (earlier.length + 1) detail) (earlier ++ [a])
  | fatal {earlier a c message} (retried : AllRetryable earlier)
      (turn : plan.turn? earlier.length = some c)
      (answered : Plan.answerAt w before earlier.length c a.startedAt = .failed message)
      (result : a.result = .fatal .input) :
      Justified (.fatalInput (earlier.length + 1) message) (earlier ++ [a])
  | timeout {attempts} (somebody : plan.candidates ≠ []) (retried : AllRetryable attempts)
      (retries : plan.settings.retry = true) :
      Justified (.timeout attempts.length) attempts
  | interrupted {attempts} (somebody : plan.candidates ≠ []) (retried : AllRetryable attempts) :
      Justified (.interrupted attempts.length) attempts
  | exhausted {attempts} (somebody : plan.candidates ≠ []) (retried : AllRetryable attempts)
      (once : plan.settings.retry = false) (all : attempts.length = plan.candidates.length) :
      Justified (.exhausted attempts.length) attempts

end Account

namespace Stage

/-- The walk stands at the candidate of the next attempt; else it still stands at the last one. -/
def atNext : Stage → Bool
  | starting | calling _ => true
  | _ => false

def movesOn : Stage → Bool
  | starting | calling _ | tallying => false
  | _ => true

def afterCall : Stage → Bool
  | tallying | settling => true
  | _ => false

end Stage

/-- What is true of a run under way. -/
structure Underway (plan : Plan) (w : World) (before s : Scene) (stage : Stage) (p : Progress) :
    Prop where
  items_eq : p.rotation.items = plan.candidates
  stands : p.rotation.StandsAt (if stage.atNext then p.count else p.count - 1)
  moveOn_eq : p.moveOn = (stage.movesOn && decide (0 < p.count))
  bounded_eq : p.deadline.isSome = plan.settings.retry
  account : Account plan w before s.calls p.attempts
  retried : AllRetryable p.attempts
  unspent : stage = .budgeting → p.count = 0
  made : stage.afterCall = true → 0 < p.count
  live : stage = .starting → s.cancelled = false
  timed : ∀ t, stage = .calling t → s.now = t
  pass : plan.settings.retry = false →
    if stage.afterCall then p.count ≤ plan.candidates.length else p.count < plan.candidates.length

structure Settled (plan : Plan) (w : World) (before s : Scene) (o : Outcome)
    (attempts : List Attempt) (wraps : Nat) : Prop where
  account : Account plan w before s.calls attempts
  justified : Justified plan w before o attempts
  wraps_eq : wraps = (attempts.length - 1) / plan.candidates.length

def Accounted (plan : Plan) (w : World) (before : Scene) (st : State) : Prop :=
  match st.phase with
  | .going stage p => Underway plan w before st.scene stage p
  | .closing o attempts wraps _ => Settled plan w before st.scene o attempts wraps
  | .finished r => Settled plan w before st.scene r.outcome r.attempts r.wraps
  | .failed _ => True

variable {plan : Plan} {w : World} {before s s' : Scene} {stage : Stage} {p : Progress}

theorem account_nil : Account plan w before before.calls [] where
  length_eq := rfl
  entry := by simp

theorem account_snoc {calls : List (Candidate × Nat)} {attempts : List Attempt}
    {call : Candidate × Nat} {a : Attempt} (h : Account plan w before calls attempts)
    (last : Entry plan w before attempts.length call a) :
    Account plan w before (calls ++ [call]) (attempts ++ [a]) where
  length_eq := by simp [h.length_eq]; omega
  entry := by
    intro i c b hc hb
    have size := h.length_eq
    rcases Nat.lt_trichotomy i attempts.length with less | same | more
    · rw [List.getElem?_append_left (by omega)] at hc hb
      exact h.entry i c b hc hb
    · subst same
      rw [← size] at hc
      simp only [List.getElem?_concat_length, Option.some.injEq] at hc hb
      rwa [← hc, ← hb]
    · rw [List.getElem?_eq_none (by simp; omega)] at hb
      contradiction

theorem Underway.nonempty (h : Underway plan w before s stage p) : plan.candidates ≠ [] := by
  rw [← h.items_eq]
  exact List.ne_nil_of_length_pos p.rotation.length_positive

theorem Underway.stands_next (h : Underway plan w before s stage p) (next : stage.atNext = true) :
    p.rotation.StandsAt p.count := by
  have stands := h.stands
  rwa [if_pos next] at stands

theorem Underway.stands_last (h : Underway plan w before s stage p) (still : stage.atNext = false) :
    p.rotation.StandsAt (p.count - 1) := by
  have stands := h.stands
  rwa [if_neg (by simp [still])] at stands

theorem Underway.turn (h : Underway plan w before s stage p) (next : stage.atNext = true) :
    plan.turn? p.count = some p.rotation.current := by
  have current := Rotation.current_at (h.stands_next next)
  rwa [h.items_eq] at current

theorem Underway.wraps_eq (h : Underway plan w before s stage p) (still : stage.atNext = false) :
    p.rotation.wraps = (p.count - 1) / plan.candidates.length := by
  rw [(h.stands_last still).wraps_eq, h.items_eq]

/-! ### What every move keeps -/

theorem Underway.onward (h : Underway plan w before s stage p) {next : Stage}
    (calls : s'.calls = s.calls) (place : next.atNext = stage.atNext)
    (moves : next.movesOn = stage.movesOn) (after : next.afterCall = false)
    (unspent : next ≠ .budgeting) (starting : next ≠ .starting)
    (timed : ∀ t, next = .calling t → s'.now = t)
    (pass : plan.settings.retry = false → p.count < plan.candidates.length) :
    Underway plan w before s' next p where
  items_eq := h.items_eq
  stands := by rw [place]; exact h.stands
  moveOn_eq := by rw [moves]; exact h.moveOn_eq
  bounded_eq := h.bounded_eq
  account := by rw [calls]; exact h.account
  retried := h.retried
  unspent same := absurd same unspent
  made same := by rw [after] at same; contradiction
  live same := absurd same starting
  timed := timed
  pass single := by rw [after]; exact pass single

theorem Underway.pass_open (h : Underway plan w before s stage p) (still : stage.afterCall = false)
    (single : plan.settings.retry = false) : p.count < plan.candidates.length := by
  have pass := h.pass single
  rwa [still] at pass

theorem Underway.retry_of_bounded (h : Underway plan w before s stage p) {d : Span}
    (bounded : p.deadline = some d) : plan.settings.retry = true := by
  rw [← h.bounded_eq, bounded]
  rfl

theorem Underway.single_of_unbounded (h : Underway plan w before s stage p)
    (unbounded : p.deadline = none) : plan.settings.retry = false := by
  rw [← h.bounded_eq, unbounded]
  rfl

theorem Underway.settled (h : Underway plan w before s stage p) {o : Outcome}
    (calls : s'.calls = s.calls) (still : stage.atNext = false)
    (justified : Justified plan w before o p.attempts) :
    Settled plan w before s' o p.attempts p.rotation.wraps where
  account := by rw [calls]; exact h.account
  justified := justified
  wraps_eq := h.wraps_eq still

theorem Underway.settled_interrupted (h : Underway plan w before s stage p)
    (calls : s'.calls = s.calls) (still : stage.atNext = false) :
    Settled plan w before s' (.interrupted p.count) p.attempts p.rotation.wraps :=
  h.settled calls still (.interrupted h.nonempty h.retried)

theorem Underway.settled_timeout (h : Underway plan w before s stage p) {d : Span}
    (bounded : p.deadline = some d) (calls : s'.calls = s.calls) (still : stage.atNext = false) :
    Settled plan w before s' (.timeout p.count) p.attempts p.rotation.wraps :=
  h.settled calls still (.timeout h.nonempty h.retried (h.retry_of_bounded bounded))

theorem Underway.none_of_still (h : Underway plan w before s .probing p)
    (still : p.moveOn = false) : p.count = 0 := by
  have due := h.moveOn_eq
  rw [still] at due
  simpa [Stage.movesOn] using due

theorem Underway.some_of_due (h : Underway plan w before s .probing p) (due : p.moveOn = true) :
    0 < p.count := by
  have eq := h.moveOn_eq
  rw [due] at eq
  simpa [Stage.movesOn] using eq

theorem Underway.cleared (h : Underway plan w before s .probing p) (still : p.moveOn = false)
    (live : s'.cancelled = false) (calls : s'.calls = s.calls) :
    Underway plan w before s' .starting p where
  items_eq := h.items_eq
  stands := by
    have none := h.none_of_still still
    have stands := h.stands_last rfl
    rwa [none] at stands ⊢
  moveOn_eq := still
  bounded_eq := h.bounded_eq
  account := by rw [calls]; exact h.account
  retried := h.retried
  unspent := nofun
  made := nofun
  live _ := live
  timed := nofun
  pass := h.pass

theorem Underway.movedOn (h : Underway plan w before s .probing p) (due : p.moveOn = true)
    (live : s'.cancelled = false) (calls : s'.calls = s.calls) :
    Underway plan w before s' .starting p.moved where
  items_eq := by rw [← h.items_eq]; exact Rotation.next_items p.rotation
  stands := by
    have stands := Rotation.next_standsAt (h.stands_last rfl)
    rwa [Nat.sub_add_cancel (h.some_of_due due)] at stands
  moveOn_eq := rfl
  bounded_eq := h.bounded_eq
  account := by rw [calls]; exact h.account
  retried := h.retried
  unspent := nofun
  made := nofun
  live _ := live
  timed := nofun
  pass := h.pass

theorem Underway.answer_eq {startedAt : Span}
    (h : Underway plan w before s (.calling startedAt) p) :
    Plan.answerAt w before p.count p.rotation.current startedAt =
      (w.call s.calls.length s.now p.rotation.current).answer := by
  rw [h.timed startedAt rfl, h.account.length_eq]
  rfl

theorem Underway.entry {startedAt finishedAt : Span} {answer : Answer}
    (h : Underway plan w before s (.calling startedAt) p)
    (replied : answer = (w.call s.calls.length s.now p.rotation.current).answer) :
    Entry plan w before p.attempts.length (p.rotation.current, p.count + 1)
      (p.attempt startedAt finishedAt (plan.markers.verdict answer)) where
  turn := h.turn rfl
  call_number := rfl
  number_eq := rfl
  index_eq := by
    rw [← h.items_eq]
    exact (h.stands_next rfl).index_eq
  label_eq := rfl
  result_eq := by
    rw [replied, ← h.answer_eq]
    rfl

theorem Underway.tallying {t : Span} {a : Attempt} {kind : FailureKind}
    (h : Underway plan w before s (.calling t) p)
    (account : Account plan w before s'.calls (p.attempts ++ [a]))
    (again : a.result = .retryable kind) :
    Underway plan w before s' .tallying ((p.kept a).failed kind) where
  items_eq := h.items_eq
  stands := by
    show p.rotation.StandsAt ((p.kept a).count - 1)
    rw [Progress.count_kept]
    exact h.stands_next rfl
  moveOn_eq := h.moveOn_eq
  bounded_eq := h.bounded_eq
  account := account
  retried := by
    intro b member
    rcases List.mem_append.mp member with old | new
    · exact h.retried b old
    · rw [List.mem_singleton.mp new]
      exact ⟨kind, again⟩
  unspent := nofun
  made _ := by
    show 0 < (p.kept a).count
    rw [Progress.count_kept]
    exact Nat.succ_pos _
  live := nofun
  timed := nofun
  pass single := by
    show (p.kept a).count ≤ plan.candidates.length
    rw [Progress.count_kept]
    exact h.pass_open rfl single

theorem Underway.answered {startedAt finishedAt : Span} {answer : Answer}
    (h : Underway plan w before s (.calling startedAt) p)
    (replied : answer = (w.call s.calls.length s.now p.rotation.current).answer)
    (calls : s'.calls = s.calls ++ [(p.rotation.current, p.count + 1)]) :
    let verdict := plan.markers.verdict answer
    let a := p.attempt startedAt finishedAt verdict
    Accounted plan w before ⟨s', (p.kept a).following (p.count + 1) verdict⟩ := by
  intro verdict a
  have entry : Entry plan w before p.attempts.length (p.rotation.current, p.count + 1) a :=
    h.entry replied
  have account : Account plan w before s'.calls (p.attempts ++ [a]) := by
    rw [calls]
    exact account_snoc h.account entry
  have turn : plan.turn? p.attempts.length = some p.rotation.current := h.turn rfl
  have answered :
      Plan.answerAt w before p.attempts.length p.rotation.current a.startedAt = answer :=
    h.answer_eq.trans replied.symm
  have wraps : p.rotation.wraps = ((p.attempts ++ [a]).length - 1) / plan.candidates.length := by
    rw [(h.stands_next rfl).wraps_eq, h.items_eq, List.length_append]
    rfl
  have judged := MarkerSet.verdict_cases plan.markers answer
  have result : a.result = verdict.result := rfl
  cases same : verdict with
  | success detail =>
    simp only [verdict] at same
    rw [same] at judged
    exact ⟨account, .success h.retried turn (answered.trans judged)
      (by rw [result]; simp only [verdict, same]; rfl), wraps⟩
  | fatal kind message =>
    simp only [verdict] at same
    rw [same] at judged
    exact ⟨account, .fatal h.retried turn (answered.trans judged.2)
      (by rw [result]; simp only [verdict, same, judged.1]; rfl), wraps⟩
  | retryable kind message =>
    have again : a.result = .retryable kind := by
      rw [result, same]
      rfl
    exact h.tallying account again

theorem Underway.pausing {d : Span} (h : Underway plan w before s stage p)
    (live : s'.cancelled = false) (calls : s'.calls = s.calls) (still : stage.atNext = false)
    (moves : stage.movesOn = true)
    (pass : plan.settings.retry = false → p.count < plan.candidates.length) :
    Accounted plan w before (pausing d p s') := by
  rcases pausing_cases d p live with ⟨_, eq⟩ | ⟨_, eq⟩ <;> rw [eq]
  · exact h.onward calls still.symm moves.symm rfl nofun nofun nofun pass
  · exact h.onward calls still.symm moves.symm rfl nofun nofun nofun pass

theorem Underway.settling (h : Underway plan w before s .tallying p) (calls : s'.calls = s.calls) :
    Underway plan w before s' .settling p.due where
  items_eq := h.items_eq
  stands := h.stands
  moveOn_eq := (decide_eq_true (h.made rfl)).symm
  bounded_eq := h.bounded_eq
  account := by rw [calls]; exact h.account
  retried := h.retried
  unspent := nofun
  made _ := h.made rfl
  live := nofun
  timed := nofun
  pass := h.pass

theorem Underway.last_of_pass (h : Underway plan w before s .settling p)
    (single : plan.settings.retry = false) :
    p.rotation.atLast = true ↔ p.count = plan.candidates.length := by
  have made := h.made rfl
  have pass : p.count ≤ plan.candidates.length := h.pass single
  have first : p.count - 1 < p.rotation.items.length := by rw [h.items_eq]; omega
  have index := Rotation.index_of_first_round (h.stands_last rfl) first
  rw [Rotation.atLast_iff, index, h.items_eq]
  omega

theorem accounted_start (plan : Plan) (w : World) (before : Scene) :
    Accounted plan w before (plan.start w before) := by
  rcases start_cases plan w before with ⟨nobody, eq⟩ | ⟨rotation, found, ⟨_, eq⟩ | ⟨f, _, eq⟩⟩ <;>
    rw [eq]
  · refine noting_keeps (fun _ _ => trivial) ?_
    intro s' _ _ calls
    refine ⟨?_, .preflight nobody, (Nat.zero_div _).symm⟩
    rw [calls]
    exact account_nil
  · obtain ⟨items, stands⟩ := Rotation.ofList?_starts found
    exact
      { items_eq := items
        stands := stands
        moveOn_eq := rfl
        bounded_eq := by cases retry : plan.settings.retry <;> simp [Plan.opening, retry]
        account := account_nil
        retried := nofun
        unspent := fun _ => rfl
        made := nofun
        live := nofun
        timed := nofun
        pass := fun _ => by rw [← items]; exact rotation.length_positive }
  · exact trivial

theorem accounted_move {st st' : State} (move : Move plan w st st')
    (h : Accounted plan w before st) : Accounted plan w before st' := by
  cases move with
  | unlimited unbounded =>
    exact h.onward rfl rfl rfl rfl nofun nofun nofun (h.pass_open rfl)
  | inBudget bounded early =>
    exact h.onward rfl rfl rfl rfl nofun nofun nofun (h.pass_open rfl)
  | spent bounded late =>
    refine noting_keeps (fun _ _ => trivial) ?_
    intro s' _ _ calls
    rw [← h.unspent rfl]
    exact h.settled_timeout bounded calls rfl
  | interrupted cancelled watched =>
    rcases watched with rfl | rfl | rfl
    · exact h.settled_interrupted rfl rfl
    · rw [h.live rfl] at cancelled
      contradiction
    · exact h.settled_interrupted rfl rfl
  | cleared live free still => exact h.cleared still live rfl
  | movedOn live free due inside => exact h.movedOn due live rfl
  | wrapped live free due last =>
    refine noting_keeps (fun _ _ => trivial) ?_
    intro s' _ cancelled calls
    exact h.movedOn due (cancelled.trans live) calls
  | held live busy => exact h.pausing live rfl rfl rfl (h.pass_open rfl)
  | @announced s p live =>
    rcases announce_cases w p s with ⟨_, eq⟩ | ⟨f, _, eq⟩ <;> rw [eq]
    · refine h.onward rfl rfl rfl rfl nofun nofun ?_ (h.pass_open rfl)
      intro t same
      cases same
      rfl
    · exact trivial
  | answered replied judged passed =>
    subst judged passed
    refine noting_keeps (fun _ _ => trivial) ?_
    intro s' _ _ calls
    exact h.answered (by rw [replied]) calls
  | untallied => exact h.settling rfl
  | tallied =>
    refine noting_keeps (fun _ _ => trivial) ?_
    intro s' _ _ calls
    exact h.settling calls
  | exhausted live unbounded last =>
    have single := h.single_of_unbounded unbounded
    refine noting_keeps (fun _ _ => trivial) ?_
    intro s' _ _ calls
    exact h.settled calls rfl
      (.exhausted h.nonempty h.retried single ((h.last_of_pass single).mp last))
  | passGoesOn live unbounded inside =>
    have single := h.single_of_unbounded unbounded
    refine h.onward rfl rfl rfl rfl nofun nofun nofun fun _ => ?_
    have pass := h.pass single
    have more := mt (h.last_of_pass single).mpr (by simp [inside])
    exact Nat.lt_of_le_of_ne pass more
  | waits live bounded early =>
    have retries := h.retry_of_bounded bounded
    exact h.pausing live rfl rfl rfl (by simp [retries])
  | late bounded late checked =>
    refine noting_keeps (fun _ _ => trivial) ?_
    intro s' _ _ calls
    rcases checked with ⟨rfl, _⟩ | rfl
    · exact h.settled_timeout bounded calls rfl
    · exact h.settled_timeout bounded calls rfl
  | roused napped cancels => exact h.settled_interrupted rfl rfl
  | slept napped whole =>
    exact h.onward rfl rfl rfl rfl nofun nofun nofun (h.pass_open rfl)
  | wokenUnlimited unbounded =>
    exact h.onward rfl rfl rfl rfl nofun nofun nofun (h.pass_open rfl)
  | wokenInTime bounded early =>
    exact h.onward rfl rfl rfl rfl nofun nofun nofun (h.pass_open rfl)
  | @closed s o attempts wraps startedAt =>
    rcases close_cases w o attempts wraps startedAt s with ⟨_, eq⟩ | ⟨f, _, eq⟩ <;> rw [eq]
    · exact ⟨by simpa using h.account, h.justified, h.wraps_eq⟩
    · exact trivial
  | rests => exact h
  | stuck => exact h

end Run

end BookingRetry
