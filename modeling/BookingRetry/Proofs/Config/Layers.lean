import BookingRetry.Config.Layer

/-!
What a layer does to one field. Only the entries whose key starts with the name of the field matter:
a value given for the whole field replaces it, and what is given inside a field that is a table is
laid over the fields of that table.
-/
namespace BookingRetry.Config

namespace Fields

theorem get?_put_same (key : Text) (value : Setting) (fs : Fields) :
    (fs.put key value).get? key = some value := by
  induction fs with
  | nil => simp [put, get?]
  | cons f fs ih =>
    by_cases same : f.1 = key
    · simp [put, get?, same]
    · simpa [put, get?, same] using ih

theorem get?_put_other {key other : Text} (differs : other ≠ key) (value : Setting) (fs : Fields) :
    (fs.put key value).get? other = fs.get? other := by
  induction fs with
  | nil => simp [put, get?, differs.symm]
  | cons f fs ih =>
    by_cases same : f.1 = key
    · simp [put, get?, same, differs.symm]
    · unfold get? at ih ⊢
      rw [put, if_neg same, List.find?_cons, List.find?_cons]
      split
      · rfl
      · exact ih

end Fields

abbrev Layer := List (Key × Setting)

def layerOf (fs : Fields) : Layer := fs.map fun f => (Key.ofText f.1, f.2)

/-- The fields of a table as a layer: their names are not taken apart. -/
def plainly (fs : Fields) : Layer := fs.map fun f => (⟨f.1, []⟩, f.2)

namespace Layer

def entries (name : Text) (layer : Layer) : List (List Step × Setting) :=
  layer.filterMap fun e => if Text.lowered e.1.name = name then some (e.1.steps, e.2) else none

/-- What an entry for a field has for the fields of the table there. -/
def below : List Step × Setting → Layer
  | ([], .table fs) => plainly fs
  | (.field name :: steps, value) => [(⟨name, steps⟩, value)]
  | _ => []

def inside (name : Text) (layer : Layer) : Layer := (layer.entries name).flatMap below

/-- The entry gives a table, or something for a field of one. -/
def tabular : List Step × Setting → Bool
  | ([], .table _) => true
  | (.field _ :: _, _) => true
  | _ => false

def keepsTable (name : Text) (layer : Layer) : Bool := (layer.entries name).all tabular

end Layer

namespace Setting

def under (layer : Layer) (root : Setting) : Setting :=
  layer.foldl (fun s e => laidAt e.1 e.2 s) root

theorem laidOver_eq (fs : Fields) (root : Setting) :
    laidOver fs root = under (layerOf fs) root := by
  unfold laidOver under layerOf
  rw [List.foldl_map]

theorem under_append (front back : Layer) (root : Setting) :
    under (front ++ back) root = under back (under front root) := List.foldl_append ..

theorem laidAll_eq (fs : Fields) (root : Setting) : laidAll fs root = under (plainly fs) root := by
  induction fs generalizing root with
  | nil => rw [laidAll]; rfl
  | cons f fs ih =>
    rw [laidAll, ih]
    rfl

/-! ### One entry -/

theorem laid_plain {value : Setting} (plain : ∀ fs, value ≠ table fs) (name : Text)
    (root : Setting) :
    laid name value root = table (root.fields.put (Text.lowered name) value) := by
  cases value with
  | table fs => exact absurd rfl (plain fs)
  | _ => rw [laid]; exact plain

theorem laid_table (fs : Fields) (name : Text) (root : Setting) :
    laid name (table fs) root = table (root.fields.put (Text.lowered name)
      (under (plainly fs) ((root.fields.get? (Text.lowered name)).getD (table [])))) := by
  rw [laid, laidAll_eq]

theorem laidAt_whole (name : Text) (value root : Setting) :
    laidAt ⟨name, []⟩ value root = laid name value root := rfl

theorem laidAt_field (name inner : Text) (steps : List Step) (value root : Setting) :
    laidAt ⟨name, .field inner :: steps⟩ value root =
      table (root.fields.put (Text.lowered name) (laidAt ⟨inner, steps⟩ value
        ((root.fields.get? (Text.lowered name)).getD nothing))) := by
  rcases List.eq_nil_or_concat steps with rfl | ⟨before, last, rfl⟩
  · rfl
  · cases last <;> simp [laidAt, changed]

theorem laidAt_puts (key : Key) (value root : Setting) :
    ∃ new, laidAt key value root = table (root.fields.put (Text.lowered key.name) new) := by
  obtain ⟨name, steps⟩ := key
  rcases List.eq_nil_or_concat steps with rfl | ⟨before, last, rfl⟩
  · rw [laidAt_whole]
    cases value with
    | table fs => exact ⟨_, laid_table fs name root⟩
    | _ =>
      refine ⟨_, laid_plain ?_ name root⟩
      intro fs same
      contradiction
  · cases last <;> exact ⟨_, by simp [laidAt, changed]; rfl⟩

theorem laidAt_other {name : Text} (key : Key) (differs : Text.lowered key.name ≠ name)
    (value root : Setting) : (laidAt key value root).fields.get? name = root.fields.get? name := by
  obtain ⟨new, eq⟩ := laidAt_puts key value root
  rw [eq]
  exact Fields.get?_put_other differs.symm new root.fields

theorem under_table (layer : Layer) (fs : Fields) :
    ∃ fs', under layer (table fs) = table fs' := by
  induction layer generalizing fs with
  | nil => exact ⟨fs, rfl⟩
  | cons e layer ih =>
    obtain ⟨new, eq⟩ := laidAt_puts e.1 e.2 (table fs)
    unfold under at ih ⊢
    rw [List.foldl_cons, eq]
    exact ih _

/-! ### A layer -/

variable {name : Text} {layer : Layer} {root : Setting}

theorem entries_cons (name : Text) (e : Key × Setting) (layer : Layer) :
    Layer.entries name (e :: layer) = if Text.lowered e.1.name = name
      then (e.1.steps, e.2) :: layer.entries name else layer.entries name := by
  unfold Layer.entries
  rw [List.filterMap_cons]
  split <;> simp_all

theorem under_other (none : layer.entries name = []) :
    (under layer root).fields.get? name = root.fields.get? name := by
  induction layer generalizing root with
  | nil => rfl
  | cons e layer ih =>
    rw [entries_cons] at none
    split at none
    · contradiction
    · rename_i differs
      exact (ih none).trans (laidAt_other e.1 differs e.2 root)

theorem under_whole {value : Setting} (plain : ∀ fs, value ≠ table fs)
    (one : layer.entries name = [([], value)]) :
    (under layer root).fields.get? name = some value := by
  induction layer generalizing root with
  | nil => contradiction
  | cons e layer ih =>
    obtain ⟨⟨first, steps⟩, given⟩ := e
    rw [entries_cons] at one
    split at one
    · rename_i same
      simp only [List.cons.injEq, Prod.mk.injEq] at one
      obtain ⟨⟨rfl, rfl⟩, none⟩ := one
      have now : (laidAt ⟨first, []⟩ given root).fields.get? name = some given := by
        rw [laidAt_whole, laid_plain plain, same]
        exact Fields.get?_put_same _ _ _
      exact (under_other none).trans now
    · exact ih one

/-- The fields of a table that a layer keeps are those of the table under what the layer has for
them. -/
theorem under_inside {fs : Fields} (keeps : layer.keepsTable name = true)
    (before : root.fields.get? name = some (table fs)) :
    (under layer root).fields.get? name = some (under (layer.inside name) (table fs)) := by
  induction layer generalizing root fs with
  | nil => exact before
  | cons e layer ih =>
    obtain ⟨⟨first, steps⟩, given⟩ := e
    unfold Layer.keepsTable at keeps ih
    unfold Layer.inside at ih ⊢
    rw [entries_cons] at keeps ⊢
    split at keeps
    · rename_i same
      rw [List.all_cons, Bool.and_eq_true] at keeps
      rw [if_pos same, List.flatMap_cons, under_append]
      have step : (laidAt ⟨first, steps⟩ given root).fields.get? name =
          some (under (Layer.below (steps, given)) (table fs)) := by
        cases steps with
        | nil =>
          cases given with
          | table inner =>
            rw [laidAt_whole, laid_table, same, before]
            exact Fields.get?_put_same _ _ _
          | _ => simp [Layer.tabular] at keeps
        | cons step steps =>
          cases step with
          | field inner =>
            rw [laidAt_field, same, before]
            exact Fields.get?_put_same _ _ _
          | item i => simp [Layer.tabular] at keeps
      obtain ⟨fs', table'⟩ := under_table (Layer.below (steps, given)) fs
      rw [table'] at step ⊢
      exact ih keeps.2 step
    · rename_i differs
      rw [if_neg differs]
      have still := (laidAt_other ⟨first, steps⟩ differs given root).trans before
      exact ih keeps still

end Setting

end BookingRetry.Config
