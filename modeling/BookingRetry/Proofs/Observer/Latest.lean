import BookingRetry.Proofs.Text.Basic
import BookingRetry.Session.Tail
import Mathlib.Data.List.TakeWhile

/-!
The newest log of a directory is chosen by what stands in the directory. The order in which the
entries are listed does not matter where no two logs are equally old.
-/
namespace BookingRetry

/-! ### Extensions -/

theorem Name.extension?_eq_some_iff {name ending : Text} :
    Name.extension? name = some ending ↔
      '.' ∉ ending ∧ name ≠ Name.upward ∧ ∃ stem, stem ≠ [] ∧ name = stem ++ '.' :: ending := by
  constructor
  · intro found
    have whole := List.takeWhile_append_dropWhile (p := fun c => c ≠ '.') (l := name.reverse)
    have pointless : '.' ∉ (name.reverse.takeWhile fun c => c ≠ '.') := by
      intro member
      simpa using List.mem_takeWhile_imp member
    simp only [Name.extension?] at found
    split at found
    · rename_i stem rest
      split at found
      · contradiction
      · rename_i proper
        obtain rfl := Option.some.inj found
        simp only [List.isEmpty_iff, Bool.or_eq_true, decide_eq_true_eq, not_or] at proper
        refine ⟨by simpa using pointless, proper.2, stem.reverse, by simpa using proper.1, ?_⟩
        rw [rest] at whole
        simpa using (congrArg List.reverse whole).symm
    · contradiction
  · rintro ⟨pointless, down, stem, proper, rfl⟩
    have plain : ∀ c ∈ ending.reverse, decide (c ≠ '.') = true := by
      intro c member
      rw [List.mem_reverse] at member
      simpa using ne_of_mem_of_not_mem member pointless
    simp only [Name.extension?, List.reverse_append, List.reverse_cons, List.append_assoc,
      List.singleton_append]
    rw [List.takeWhile_append_of_pos plain, List.dropWhile_append_of_pos plain]
    simp [proper, down]

namespace Entry

def IsLogName (name : Text) : Prop := ∃ stem, stem ≠ [] ∧ name = stem ++ lit ".log"

theorem isLog_iff (e : Entry) : e.isLog = true ↔ e.isPlainFile = true ∧ IsLogName e.name := by
  have pointless : '.' ∉ logExtension := by decide
  have down : ∀ stem, stem ++ lit ".log" ≠ Name.upward := by
    intro stem same
    simpa [Name.upward, lit] using congrArg List.getLast? same
  have spelled : lit ".log" = '.' :: logExtension := rfl
  simp only [isLog, Bool.and_eq_true, decide_eq_true_eq, Name.extension?_eq_some_iff, IsLogName,
    pointless, not_false_eq_true, true_and, ← spelled]
  apply and_congr_right
  intro _
  constructor
  · intro log
    exact log.2
  · rintro ⟨stem, proper, named⟩
    exact ⟨named ▸ down stem, stem, proper, named⟩

/-! ### The newest of the entries seen -/

structure Newest (seen : List Entry) (e : Entry) : Prop where
  among : e ∈ seen
  last : ∀ e' ∈ seen, e'.modified ≤ e.modified

def Kept (seen : List Entry) : Option Entry → Prop
  | none => seen = []
  | some e => Newest seen e

theorem kept_newer {seen : List Entry} {best : Option Entry} (kept : Kept seen best) (e : Entry) :
    Kept (seen ++ [e]) (newer best e) := by
  cases best with
  | none =>
    have nothing : seen = [] := kept
    subst nothing
    exact ⟨by simp, by simp⟩
  | some b =>
    obtain ⟨among, last⟩ : Newest seen b := kept
    by_cases older : b.modified < e.modified
    · simp only [newer, older, if_true, Kept]
      constructor
      · simp
      · intro e' member
        rcases List.mem_append.mp member with before | now
        · have := last e' before
          omega
        · have same : e' = e := List.mem_singleton.mp now
          have : e'.modified = e.modified := congrArg Entry.modified same
          omega
    · simp only [newer, older, if_false, Kept]
      constructor
      · simp [among]
      · intro e' member
        rcases List.mem_append.mp member with before | now
        · exact last e' before
        · rw [List.mem_singleton.mp now]
          omega

theorem kept_foldl {seen : List Entry} {best : Option Entry} (kept : Kept seen best)
    (es : List Entry) : Kept (seen ++ es) (es.foldl newer best) := by
  induction es generalizing seen best with
  | nil => simpa using kept
  | cons e es ih => simpa using ih (kept_newer kept e)

theorem kept_newestLog (es : List Entry) : Kept (es.filter isLog) (newestLog? es) := by
  have start : Kept [] none := rfl
  exact kept_foldl start (es.filter isLog)

/-- No two logs are equally old. -/
def Apart (es : List Entry) : Prop :=
  ∀ e ∈ es.filter isLog, ∀ e' ∈ es.filter isLog, e.modified = e'.modified → e = e'

theorem newestLog?_eq_none_iff (es : List Entry) :
    newestLog? es = none ↔ ∀ e ∈ es, e.isLog = false := by
  have kept := kept_newestLog es
  constructor
  · intro nothing
    rw [nothing] at kept
    have empty : es.filter isLog = [] := kept
    simpa using List.filter_eq_nil_iff.mp empty
  · intro logless
    have empty : es.filter isLog = [] := List.filter_eq_nil_iff.mpr (by simpa using logless)
    simp [newestLog?, empty]

theorem newestLog?_eq_some_iff {es : List Entry} (apart : Apart es) (e : Entry) :
    newestLog? es = some e ↔
      e ∈ es.filter isLog ∧ ∀ e' ∈ es.filter isLog, e' = e ∨ e'.modified < e.modified := by
  have kept := kept_newestLog es
  constructor
  · intro chosen
    rw [chosen] at kept
    obtain ⟨among, last⟩ : Newest (es.filter isLog) e := kept
    refine ⟨among, ?_⟩
    intro e' member
    by_cases same : e'.modified = e.modified
    · exact .inl (apart e' member e among same)
    · have := last e' member
      omega
  · rintro ⟨among, newest⟩
    cases found : newestLog? es with
    | none =>
      rw [found] at kept
      have empty : es.filter isLog = [] := kept
      rw [empty] at among
      contradiction
    | some b =>
      rw [found] at kept
      obtain ⟨there, last⟩ : Newest (es.filter isLog) b := kept
      rcases newest b there with rfl | older
      · rfl
      · have := last e among
        omega

theorem newestLog?_perm {es es' : List Entry} (apart : Apart es) (same : es'.Perm es) :
    newestLog? es' = newestLog? es := by
  have logs : ∀ e, e ∈ es'.filter isLog ↔ e ∈ es.filter isLog := by
    intro e
    exact (same.filter isLog).mem_iff
  have apart' : Apart es' := by simpa only [Apart, logs] using apart
  apply Option.ext
  intro e
  simp only [newestLog?_eq_some_iff apart, newestLog?_eq_some_iff apart', logs]

end Entry

/-! ### A directory -/

theorem latestAmong_eq_ok_iff {directory path : Text} {es : List Entry} :
    latestAmong directory es = .ok path ↔
      ∃ e, Entry.newestLog? es = some e ∧ path = Path.join directory e.name := by
  unfold latestAmong
  cases Entry.newestLog? es <;> simp [eq_comm]

theorem latestAmong_eq_error_iff {directory : Text} {es : List Entry} {f : Failure} :
    latestAmong directory es = .error f ↔
      f = .noLogFound directory ∧ Entry.newestLog? es = none := by
  unfold latestAmong
  cases Entry.newestLog? es <;> simp [eq_comm]

theorem Tree.mem_children {t : Tree} {p : Place} {name : Text} {n : Node} :
    (name, n) ∈ t.children p ↔ (p ++ [name], n) ∈ t.nodes := by
  simp only [Tree.children, List.mem_filterMap]
  constructor
  · rintro ⟨⟨place, node⟩, member, listed⟩
    cases turned : place.reverse with
    | nil => simp [turned] at listed
    | cons last parent =>
      simp only [turned, Option.ite_none_right_eq_some, Option.some.injEq, Prod.mk.injEq] at listed
      obtain ⟨rfl, rfl, rfl⟩ := listed
      have spelled : place = parent.reverse ++ [last] := by
        simpa using congrArg List.reverse turned
      rwa [spelled] at member
  · intro member
    exact ⟨(p ++ [name], n), member, by simp⟩

namespace Host

def HasLog (h : Host) (directory name : Text) (modified : Int) : Prop :=
  ∃ place content mode, h.tree.lookup h.cwd directory = .ok (place, .directory) ∧
    (place ++ [name], Node.file content mode modified) ∈ h.tree.nodes ∧ Entry.IsLogName name

variable {h : Host} {directory : Text} {es : List Entry}

theorem mem_logs_iff (listed : h.tree.entries h.cwd directory = .ok es) (e : Entry) :
    e ∈ es.filter Entry.isLog ↔ e.isPlainFile = true ∧ h.HasLog directory e.name e.modified := by
  obtain ⟨name, plain, modified⟩ := e
  simp only [Tree.entries] at listed
  split at listed
  · rename_i place looked
    obtain rfl := Except.ok.inj listed
    simp only [List.mem_filter, Entry.isLog_iff, HasLog, List.mem_map, looked, Except.ok.injEq,
      Prod.mk.injEq, and_true]
    constructor
    · rintro ⟨⟨⟨name', n⟩, member, shown⟩, rfl, named⟩
      cases n with
      | file content mode time =>
        simp only [Entry.mk.injEq, true_and] at shown
        obtain ⟨rfl, rfl⟩ := shown
        exact ⟨rfl, place, content, mode, rfl, Tree.mem_children.mp member, named⟩
      | directory => simp at shown
      | link target => simp at shown
    · rintro ⟨rfl, _, content, mode, rfl, member, named⟩
      exact ⟨⟨(name, .file content mode modified), Tree.mem_children.mpr member, rfl⟩, rfl, named⟩
  · contradiction
  · contradiction

theorem newestLog?_eq_none_iff_of_listed (listed : h.tree.entries h.cwd directory = .ok es) :
    Entry.newestLog? es = none ↔ ∀ name modified, ¬ h.HasLog directory name modified := by
  rw [Entry.newestLog?_eq_none_iff]
  constructor
  · intro logless name modified log
    have among := (mem_logs_iff listed ⟨name, true, modified⟩).mpr ⟨rfl, log⟩
    obtain ⟨member, isLog⟩ := List.mem_filter.mp among
    rw [logless _ member] at isLog
    contradiction
  · intro none e member
    rw [← Bool.not_eq_true]
    intro log
    have among := (mem_logs_iff listed e).mp (List.mem_filter.mpr ⟨member, log⟩)
    exact none e.name e.modified among.2

theorem HasLog.listed {name : Text} {modified : Int} (log : h.HasLog directory name modified) :
    ∃ es, h.tree.entries h.cwd directory = .ok es := by
  obtain ⟨place, content, mode, looked, -, -⟩ := log
  exact ⟨_, by simp only [Tree.entries, looked]; rfl⟩

theorem apart_iff (listed : h.tree.entries h.cwd directory = .ok es) :
    Entry.Apart es ↔ ∀ name name' modified, h.HasLog directory name modified →
      h.HasLog directory name' modified → name = name' := by
  simp only [Entry.Apart, mem_logs_iff listed]
  constructor
  · intro apart name name' modified log log'
    exact congrArg Entry.name (apart ⟨name, true, modified⟩ ⟨rfl, log⟩ ⟨name', true, modified⟩
      ⟨rfl, log'⟩ rfl)
  · rintro apart ⟨name, plain, modified⟩ ⟨rfl, log⟩ ⟨name', plain', modified'⟩ ⟨rfl, log'⟩ rfl
    rw [apart name name' modified log log']

/-- The answer is the one log that is newer than all others, if the directory can be listed and has
a log, in whatever order its entries are listed. -/
theorem latest_log_in_any_order (h : Host) (directory : Text)
    (apart : ∀ name name' modified, h.HasLog directory name modified →
      h.HasLog directory name' modified → name = name') :
    (∀ path, h.latestLog directory = .ok path ↔
      ∃ name modified, path = Path.join directory name ∧ h.HasLog directory name modified ∧
        ∀ name' modified', h.HasLog directory name' modified' →
          (name', modified') = (name, modified) ∨ modified' < modified) ∧
    (∀ f, h.latestLog directory = .error f ↔ f = .noLogFound directory ∧
      ((∀ es, h.tree.entries h.cwd directory ≠ .ok es) ∨
        ∀ name modified, ¬ h.HasLog directory name modified)) ∧
    ∀ es es', h.tree.entries h.cwd directory = .ok es → es'.Perm es →
      h.latestLog directory = latestAmong directory es' := by
  cases listing : h.tree.entries h.cwd directory with
  | error fault =>
    have none : ∀ name modified, ¬ h.HasLog directory name modified := by
      intro name modified log
      obtain ⟨es, listed⟩ := log.listed
      rw [listing] at listed
      contradiction
    simp [latestLog, listing, none, eq_comm]
  | ok es =>
    have apart := (apart_iff listing).mpr apart
    have answer : h.latestLog directory = latestAmong directory es := by simp [latestLog, listing]
    rw [answer]
    refine ⟨?_, ?_, ?_⟩
    · intro path
      simp only [latestAmong_eq_ok_iff, Entry.newestLog?_eq_some_iff apart, mem_logs_iff listing]
      constructor
      · rintro ⟨⟨name, plain, modified⟩, ⟨⟨rfl, log⟩, newest⟩, rfl⟩
        refine ⟨name, modified, rfl, log, ?_⟩
        intro name' modified' log'
        simpa using newest ⟨name', true, modified'⟩ ⟨rfl, log'⟩
      · rintro ⟨name, modified, rfl, log, newest⟩
        refine ⟨⟨name, true, modified⟩, ⟨⟨rfl, log⟩, ?_⟩, rfl⟩
        rintro ⟨name', plain, modified'⟩ ⟨rfl, log'⟩
        simpa using newest name' modified' log'
    · intro f
      rw [latestAmong_eq_error_iff, newestLog?_eq_none_iff_of_listed listing]
      simp
    · rintro es es' ⟨⟩ same
      simp only [latestAmong, Entry.newestLog?_perm apart same]

def crowdedHost : Host where
  tree :=
    { nodes :=
        [([lit "logs"], .directory),
          ([lit "logs", lit "old.log"], .file [] 0o600 10),
          ([lit "logs", lit "latest.log"], .link (lit "old.log")),
          ([lit "logs", lit "..log"], .file [] 0o600 40),
          ([lit "logs", lit ".log"], .file [] 0o600 50),
          ([lit "logs", lit "old.log.gz"], .file [] 0o600 60),
          ([lit "logs", lit "kept.log"], .directory)] }
  cwd := []
  environment := []

theorem crowded_directory_log :
    (∀ name name' modified, crowdedHost.HasLog (lit "/logs") name modified →
      crowdedHost.HasLog (lit "/logs") name' modified → name = name') ∧
    crowdedHost.latestLog (lit "/logs") = .ok (lit "/logs/..log") := by
  have listing : crowdedHost.tree.entries crowdedHost.cwd (lit "/logs") =
      .ok [⟨lit "old.log", true, 10⟩, ⟨lit "latest.log", false, 0⟩, ⟨lit "..log", true, 40⟩,
        ⟨lit ".log", true, 50⟩, ⟨lit "old.log.gz", true, 60⟩, ⟨lit "kept.log", false, 0⟩] := by
    rfl
  have logs (e : Entry) := mem_logs_iff listing e
  have apart := (apart_iff listing).mp (by unfold Entry.Apart; decide +kernel)
  refine ⟨apart, ((latest_log_in_any_order crowdedHost (lit "/logs") apart).1 _).mpr
    ⟨lit "..log", 40, by decide, ((logs ⟨lit "..log", true, 40⟩).mp (by decide +kernel)).2, ?_⟩⟩
  intro name modified log
  have among := (logs ⟨name, true, modified⟩).mpr ⟨rfl, log⟩
  have none_newer : ∀ e ∈ ([⟨lit "old.log", true, 10⟩, ⟨lit "..log", true, 40⟩] : List Entry),
      (e.name, e.modified) = (lit "..log", (40 : Int)) ∨ e.modified < 40 := by decide
  exact none_newer ⟨name, true, modified⟩ among

end Host

end BookingRetry
