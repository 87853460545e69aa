import BookingRetry.Json.Value

/-!
Members in order. The order of texts is total, and putting a member in its place changes what
stands under its key and nothing else; so members put in order one after the other are the last
ones of their keys.
-/
namespace BookingRetry

namespace Text

theorem order_eq_compare (a b : Text) :
    order a b = compare (a.map Char.toNat) (b.map Char.toNat) := by
  induction a generalizing b with
  | nil => cases b <;> rfl
  | cons c cs ih =>
    cases b with
    | nil => rfl
    | cons d ds =>
      unfold order
      rw [ih, List.map_cons, List.map_cons, List.compare_cons_cons]

theorem order_eq_iff {a b : Text} : order a b = .eq ↔ a = b := by
  rw [order_eq_compare, Std.LawfulEqOrd.compare_eq_iff_eq]
  exact List.map_inj_right fun _ _ same => Char.toNat_inj.mp same

theorem order_swap (a b : Text) : (order a b).swap = order b a := by
  rw [order_eq_compare, order_eq_compare b, ← Std.OrientedOrd.eq_swap]

theorem order_trans {a b c : Text} (ab : order a b = .lt) (bc : order b c = .lt) :
    order a c = .lt := by
  rw [order_eq_compare] at ab bc ⊢
  exact Std.TransCmp.lt_trans ab bc

theorem order_gt_iff {a b : Text} : order a b = .gt ↔ order b a = .lt := by
  rw [← order_swap b a]
  cases order b a <;> decide

end Text

namespace Json.Members

def Increasing (ms : Members) : Prop := ms.Pairwise fun m n => Text.order m.1 n.1 = .lt

def first? (key : Text) (ms : Members) : Option Value :=
  (ms.find? fun m => m.1 = key).map Prod.snd

/-- What stands last under a key. -/
def last? (key : Text) (ms : Members) : Option Value := first? key ms.reverse

def under (key : Text) (ms : Members) : List Value :=
  (ms.filter fun m => m.1 = key).map Prod.snd

variable {ms : Members} {key : Text}

theorem under_cons_same (key : Text) (v : Value) (ms : Members) :
    under key ((key, v) :: ms) = v :: under key ms := by
  simp [under]

theorem under_cons_other {key k : Text} (other : k ≠ key) (v : Value) (ms : Members) :
    under key ((k, v) :: ms) = under key ms := by
  simp [under, other]

theorem first?_cons (key : Text) (m : Text × Value) (ms : Members) :
    first? key (m :: ms) = if m.1 = key then some m.2 else first? key ms := by
  unfold first?
  rw [List.find?_cons]
  by_cases same : m.1 = key <;> simp [same]

theorem first?_append (key : Text) (ms ns : Members) :
    first? key (ms ++ ns) = (first? key ms).or (first? key ns) := by
  unfold first?
  rw [List.find?_append]
  cases ms.find? fun m => m.1 = key <;> rfl

theorem last?_cons (key : Text) (m : Text × Value) (ms : Members) :
    last? key (m :: ms) = (last? key ms).or (if m.1 = key then some m.2 else none) := by
  unfold last?
  rw [List.reverse_cons, first?_append, first?_cons]
  rfl

theorem first?_filter (p : Text → Bool) (key : Text) (ms : Members) :
    first? key (ms.filter fun m => p m.1) = if p key then first? key ms else none := by
  induction ms with
  | nil => cases p key <;> rfl
  | cons m ms ih =>
    rw [List.filter_cons]
    by_cases same : m.1 = key
    · rw [first?_cons, if_pos same, same]
      split
      · rw [first?_cons, if_pos same]
      · rename_i dropped
        rw [ih, if_neg dropped]
    · rw [first?_cons key m ms, if_neg same]
      split
      · rw [first?_cons, if_neg same, ih]
      · exact ih

theorem first?_map (f : Text → Value → Value) (key : Text) (ms : Members) :
    first? key (ms.map fun m => (m.1, f m.1 m.2)) = (first? key ms).map (f key) := by
  induction ms with
  | nil => rfl
  | cons m ms ih =>
    rw [List.map_cons, first?_cons, first?_cons, ih]
    by_cases same : m.1 = key
    · rw [if_pos same, if_pos same, same]
      rfl
    · rw [if_neg same, if_neg same]

theorem last?_filter (p : Text → Bool) (key : Text) (ms : Members) :
    last? key (ms.filter fun m => p m.1) = if p key then last? key ms else none := by
  unfold last?
  rw [← List.filter_reverse, first?_filter]

theorem first?_put (key k : Text) (v : Value) (ms : Members) :
    first? key (ms.put k v) = if k = key then some v else first? key ms := by
  induction ms with
  | nil => rw [put, first?_cons]
  | cons m ms ih =>
    unfold put
    cases place : Text.order k m.1 with
    | lt => rw [first?_cons]
    | eq =>
      have same := Text.order_eq_iff.mp place
      rw [first?_cons, first?_cons, ← same]
      split <;> rfl
    | gt =>
      rw [first?_cons, first?_cons, ih]
      by_cases there : m.1 = key
      · have other : k ≠ key := by
          rintro rfl
          rw [Text.order_eq_iff.mpr there.symm] at place
          contradiction
        rw [if_pos there, if_neg other, if_pos there]
      · rw [if_neg there, if_neg there]

theorem forall_put {P : Text × Value → Prop} {k : Text} {v : Value} (h : ∀ m ∈ ms, P m)
    (new : P (k, v)) : ∀ m ∈ ms.put k v, P m := by
  induction ms with
  | nil => simpa [put] using new
  | cons m ms ih =>
    obtain ⟨here, there⟩ := List.forall_mem_cons.mp h
    unfold put
    split
    · exact List.forall_mem_cons.mpr ⟨new, h⟩
    · exact List.forall_mem_cons.mpr ⟨new, there⟩
    · exact List.forall_mem_cons.mpr ⟨here, ih there⟩

theorem increasing_put (h : ms.Increasing) (k : Text) (v : Value) : (ms.put k v).Increasing := by
  induction ms with
  | nil => exact List.pairwise_singleton _ _
  | cons m ms ih =>
    obtain ⟨before, rest⟩ := List.pairwise_cons.mp h
    unfold put
    split
    · rename_i place
      refine List.pairwise_cons.mpr ⟨?_, h⟩
      exact List.forall_mem_cons.mpr ⟨place, fun n member =>
        Text.order_trans place (before n member)⟩
    · rename_i place
      have same := Text.order_eq_iff.mp place
      refine List.pairwise_cons.mpr ⟨?_, rest⟩
      rw [same]
      exact before
    · rename_i place
      exact List.pairwise_cons.mpr ⟨forall_put before (Text.order_gt_iff.mp place), ih rest⟩

theorem put_last {k : Text} (h : ∀ m ∈ ms, Text.order m.1 k = .lt) (v : Value) :
    ms.put k v = ms ++ [(k, v)] := by
  induction ms with
  | nil => rfl
  | cons m ms ih =>
    obtain ⟨here, there⟩ := List.forall_mem_cons.mp h
    unfold put
    rw [Text.order_gt_iff.mpr here, ih there]
    rfl

def putAll (acc ms : Members) : Members := ms.foldl (fun acc m => acc.put m.1 m.2) acc

theorem first?_putAll (key : Text) (acc ms : Members) :
    first? key (acc.putAll ms) = (last? key ms).or (first? key acc) := by
  induction ms generalizing acc with
  | nil => rfl
  | cons m ms ih =>
    show first? key ((acc.put m.1 m.2).putAll ms) = _
    rw [ih, first?_put, last?_cons]
    cases last? key ms <;> split <;> rfl

theorem increasing_putAll {acc : Members} (h : acc.Increasing) (ms : Members) :
    (acc.putAll ms).Increasing := by
  induction ms generalizing acc with
  | nil => exact h
  | cons m ms ih => exact ih (increasing_put h m.1 m.2)

theorem forall_putAll {P : Text × Value → Prop} {acc : Members} (old : ∀ m ∈ acc, P m)
    (new : ∀ m ∈ ms, P m) : ∀ m ∈ acc.putAll ms, P m := by
  induction ms generalizing acc with
  | nil => exact old
  | cons m ms ih =>
    obtain ⟨here, there⟩ := List.forall_mem_cons.mp new
    exact ih (forall_put old here) there

theorem putAll_of_increasing {acc ms : Members} (h : (acc ++ ms).Increasing) :
    acc.putAll ms = acc ++ ms := by
  induction ms generalizing acc with
  | nil => exact (List.append_nil acc).symm
  | cons m ms ih =>
    have before : ∀ a ∈ acc, Text.order a.1 m.1 = .lt := fun a member =>
      (List.pairwise_append.mp h).2.2 a member m List.mem_cons_self
    show (acc.put m.1 m.2).putAll ms = _
    rw [put_last before]
    rw [List.append_cons acc m ms] at h ⊢
    exact ih h

theorem increasing_ordered (ms : Members) : ms.ordered.Increasing :=
  increasing_putAll List.Pairwise.nil ms

theorem first?_ordered (key : Text) (ms : Members) : first? key ms.ordered = last? key ms :=
  (first?_putAll key [] ms).trans (Option.or_none)

theorem forall_ordered {P : Text × Value → Prop} (h : ∀ m ∈ ms, P m) : ∀ m ∈ ms.ordered, P m :=
  forall_putAll (List.forall_mem_nil P) h

theorem ordered_of_increasing (h : ms.Increasing) : ms.ordered = ms :=
  @putAll_of_increasing [] ms h

theorem first?_isSome_iff {key : Text} {ms : Members} :
    (first? key ms).isSome ↔ ∃ m ∈ ms, m.1 = key := by
  simp [first?]

theorem first?_behind {m : Text × Value} (h : Increasing (m :: ms)) : first? m.1 ms = none := by
  cases found : first? m.1 ms with
  | none => rfl
  | some v =>
    obtain ⟨n, member, same⟩ := first?_isSome_iff.mp (Option.isSome_of_eq_some found)
    have before := (List.pairwise_cons.mp h).1 n member
    rw [same, Text.order_eq_iff.mpr rfl] at before
    contradiction

theorem front_not_after {m n : Text × Value} {ns : Members} (h : Increasing (n :: ns))
    (there : (first? m.1 (n :: ns)).isSome) : m.1 = n.1 ∨ Text.order n.1 m.1 = .lt := by
  obtain ⟨k, member, same⟩ := first?_isSome_iff.mp there
  rw [← same]
  rcases List.mem_cons.mp member with rfl | behind
  · exact Or.inl rfl
  · exact Or.inr ((List.pairwise_cons.mp h).1 k behind)

/-- Members in order are determined by what stands under each key. -/
theorem eq_of_first? {ms ns : Members} (hm : ms.Increasing) (hn : ns.Increasing)
    (same : ∀ key, first? key ms = first? key ns) : ms = ns := by
  induction ms generalizing ns with
  | nil =>
    cases ns with
    | nil => rfl
    | cons n ns =>
      have there := same n.1
      rw [first?_cons, if_pos rfl] at there
      contradiction
  | cons m ms ih =>
    cases ns with
    | nil =>
      have there := same m.1
      rw [first?_cons, if_pos rfl] at there
      contradiction
    | cons n ns =>
      have here := same m.1
      have there := same n.1
      rw [first?_cons, if_pos rfl] at here
      rw [first?_cons n.1 n, if_pos rfl] at there
      -- Each front key stands in the other list as well, so neither comes after the other.
      have front : m.1 = n.1 := by
        rcases front_not_after hn (Option.isSome_of_eq_some here.symm) with eq | after
        · exact eq
        rcases front_not_after hm (Option.isSome_of_eq_some there) with eq | before
        · exact eq.symm
        · rw [← Text.order_swap, before] at after
          contradiction
      rw [first?_cons, if_pos front.symm] at here
      have value := Option.some.inj here
      have rest : ∀ key, first? key ms = first? key ns := by
        intro key
        by_cases own : m.1 = key
        · rw [← own, first?_behind hm, front, first?_behind hn]
        · have other : n.1 ≠ key := fun eq => own (front.trans eq)
          have behind := same key
          rwa [first?_cons, if_neg own, first?_cons, if_neg other] at behind
      rw [ih (List.pairwise_cons.mp hm).2 (List.pairwise_cons.mp hn).2 rest, Prod.ext front value]

theorem put_comm (h : ms.Increasing) {k l : Text} (other : k ≠ l) (v u : Value) :
    (ms.put k v).put l u = (ms.put l u).put k v := by
  apply eq_of_first? (increasing_put (increasing_put h k v) l u)
    (increasing_put (increasing_put h l u) k v)
  intro key
  simp only [first?_put]
  split
  · rename_i same
    rw [if_neg (same ▸ other)]
  · rfl

theorem ordered_swap (ms ns : Members) {k l : Text} (other : k ≠ l) (v u : Value) :
    ordered (ms ++ (k, v) :: (l, u) :: ns) = ordered (ms ++ (l, u) :: (k, v) :: ns) := by
  have before : (putAll [] ms).Increasing := increasing_putAll List.Pairwise.nil ms
  have split (m n : Text × Value) : ordered (ms ++ m :: n :: ns) =
      (((putAll [] ms).put m.1 m.2).put n.1 n.2).putAll ns := by
    simp [ordered, putAll]
  rw [split, split, put_comm before other]

end Json.Members

end BookingRetry
