import Mathlib.Data.List.TakeWhile
import Mathlib.Tactic.SplitIfs
import BookingRetry.Proofs.Json.Layout

/-!
What is read to its end was laid out as the outline says: the grammar leaves out no text that the
reader takes for JSON.
-/
namespace BookingRetry.Json.Outline

/-! ### Blanks -/

theorem blank_append {s u : Text} (left : Blank s) (right : Blank u) : Blank (s ++ u) := by
  intro c member
  rcases List.mem_append.mp member with front | back
  · exact left c front
  · exact right c back

theorem skipSpace_split (t : Text) : ∃ s, Blank s ∧ t = s ++ skipSpace t := by
  refine ⟨t.takeWhile isSpace, ?_, (List.takeWhile_append_dropWhile).symm⟩
  intro c member
  exact List.mem_takeWhile_imp member

theorem items_blank {s w : Text} {os : List Outline} (blank : Blank s) (laid : Laid (.items os) w) :
    Laid (.items os) (s ++ w) := by
  cases laid with
  | lastItem before value after =>
    rw [← List.append_assoc]
    exact .lastItem (blank_append blank before) value after
  | item before value after rest =>
    rw [← List.append_assoc]
    exact .item (blank_append blank before) value after rest

theorem members_blank {s w : Text} {ms : List (Quoted × Outline)} (blank : Blank s)
    (laid : Laid (.members ms) w) : Laid (.members ms) (s ++ w) := by
  cases laid with
  | lastMember before name afterName beforeValue value after =>
    rw [← List.append_assoc]
    exact .lastMember (blank_append blank before) name afterName beforeValue value after
  | member before name afterName beforeValue value after rest =>
    rw [← List.append_assoc]
    exact .member (blank_append blank before) name afterName beforeValue value after rest

/-! ### Strings -/

theorem mem_simpleEscapes {e c : Char} (found : simpleEscape? e = some c) :
    (e, c) ∈ simpleEscapes := by
  obtain ⟨⟨e', c'⟩, first, rfl⟩ := Option.map_eq_some_iff.mp found
  have same : e' = e := by simpa using List.find?_some first
  rw [← same]
  exact List.mem_of_find?_eq_some first

theorem before_eq {p : Piece} {r : Reading Quoted} {q : Quoted} {rest : Text}
    (read : Piece.before p r = (q, some rest)) :
    ∃ q', r = (q', some rest) ∧ q = ⟨p :: q'.pieces, q'.fault⟩ := by
  obtain ⟨q', ends⟩ := r
  simp only [Piece.before, Prod.mk.injEq] at read
  obtain ⟨rfl, rfl⟩ := read
  exact ⟨q', rfl, rfl⟩

theorem readString_sound {t rest : Text} {q : Quoted} (read : readString t = (q, some rest)) :
    ∃ ps w, q = ⟨ps, none⟩ ∧ PiecesText ps w ∧ t = w ++ '"' :: rest := by
  fun_induction readString t generalizing q with
  | case1 | case3 | case5 | case6 | case7 | case9 | case10 => cases read
  | case2 =>
    cases read
    exact ⟨[], [], rfl, .nil, rfl⟩
  | case4 a b c d _ n hex _ ih =>
    obtain ⟨_, inside, rfl⟩ := before_eq read
    obtain ⟨ps, w, rfl, pieces, rfl⟩ := ih inside
    exact ⟨_, _, rfl, .unit hex pieces, rfl⟩
  | case8 e _ _ c escape ih =>
    obtain ⟨_, inside, rfl⟩ := before_eq read
    obtain ⟨ps, w, rfl, pieces, rfl⟩ := ih inside
    exact ⟨_, _, rfl, .simple (mem_simpleEscapes escape) pieces, rfl⟩
  | case11 c cs mark last _ escape printed ih =>
    obtain ⟨_, inside, rfl⟩ := before_eq read
    obtain ⟨ps, w, rfl, pieces, rfl⟩ := ih inside
    have noEscape : c ≠ '\\' := by
      intro same
      cases cs' : w ++ '"' :: rest with
      | nil => exact last same cs'
      | cons e es => exact escape e es same cs'
    exact ⟨_, _, rfl, .plain mark noEscape (Nat.le_of_not_lt printed) pieces, rfl⟩

/-! ### Words and numbers -/

theorem readWord_sound {value o : Outline} {word t rest : Text}
    (read : readWord value word t = (o, some rest)) : o = value ∧ t = word ++ rest := by
  induction word generalizing t with
  | nil =>
    cases read
    exact ⟨rfl, rfl⟩
  | cons w ws ih =>
    cases t with
    | nil => cases read
    | cons c cs =>
      unfold readWord at read
      split at read
      · rename_i same
        obtain ⟨rfl, rfl⟩ := ih read
        exact ⟨rfl, by rw [same]; rfl⟩
      · cases read

theorem digits_split (t : Text) : t = digitsOf t ++ afterDigits t :=
  (List.takeWhile_append_dropWhile).symm

theorem digitsOf_digits {t : Text} (some : digitsOf t ≠ []) : Digits (digitsOf t) :=
  ⟨some, List.all_takeWhile⟩

theorem digits_read {t rest : Text} {o : Outline} {r : Reading Outline}
    (read : (if (digitsOf t).isEmpty then lacksDigit t else r) = (o, some rest)) :
    Digits (digitsOf t) ∧ r = (o, some rest) := by
  split at read
  · unfold lacksDigit at read
    split at read <;> cases read
  · rename_i some
    exact ⟨digitsOf_digits (by simpa using some), read⟩

theorem exponent_sound {f : Figure} {mark : Char} {down : Bool} {sign t rest : Text} {o : Outline}
    (letter : mark = 'e' ∨ mark = 'E')
    (signed : (down, sign) ∈ [(false, []), (false, ['+']), (true, ['-'])])
    (read : (if (digitsOf t).isEmpty then lacksDigit t
      else (.number { f with exponent := some (down, digitsOf t) }, some (afterDigits t))) =
      (o, some rest)) :
    ∃ x e, o = .number { f with exponent := x } ∧ ExponentText x e ∧
      mark :: (sign ++ t) = e ++ rest := by
  obtain ⟨digits, last⟩ := digits_read read
  cases last
  refine ⟨_, _, rfl, .some letter signed digits, ?_⟩
  simp only [List.cons_append, List.append_assoc, ← digits_split]

theorem readExponent_sound {f : Figure} (bare : f.exponent = none) {o : Outline} {t rest : Text}
    (read : readExponent f t = (o, some rest)) :
    ∃ x e, o = .number { f with exponent := x } ∧ ExponentText x e ∧ t = e ++ rest := by
  cases t with
  | nil =>
    cases read
    exact ⟨none, [], by rw [← bare], .none, rfl⟩
  | cons mark cs =>
    simp only [readExponent] at read
    split at read
    · rename_i letter
      simp only [Bool.or_eq_true, decide_eq_true_eq] at letter
      split at read
      · exact exponent_sound letter (by decide : (false, ['+']) ∈ _) read
      · exact exponent_sound letter (by decide : (true, ['-']) ∈ _) read
      · exact exponent_sound letter (by decide : (false, []) ∈ _) read
    · cases read
      exact ⟨none, [], by rw [← bare], .none, rfl⟩

theorem figure_sound {f : Figure} {o : Outline} {t rest : Text}
    (read : readExponent f t = (o, some rest)) (bare : f.exponent = none) (whole : Digits f.whole)
    (lead : ∀ ds, f.whole = '0' :: ds → ds = [])
    (fraction : if f.pointed then Digits f.fraction else f.fraction = []) :
    ∃ e, Laid (.value o) ((if f.negative then ['-'] else []) ++
      (f.whole ++ ((if f.pointed then '.' :: f.fraction else []) ++ e))) ∧ t = e ++ rest := by
  obtain ⟨x, e, rfl, exponent, rfl⟩ := readExponent_sound bare read
  exact ⟨e, .number ⟨whole, lead, fraction, e, exponent, rfl⟩, rfl⟩

theorem readNumber_sound {negative : Bool} {o : Outline} {t rest : Text}
    (read : readNumber negative t = (o, some rest)) :
    ∃ w, Laid (.value o) ((if negative then ['-'] else []) ++ w) ∧ t = w ++ rest := by
  have parts := digits_split t
  have all : (digitsOf t).all Numeral.isDigit = true := List.all_takeWhile
  dsimp only [readNumber] at read
  generalize digitsOf t = ds, afterDigits t = u at parts all read
  split at read
  · unfold lacksDigit at read
    split at read <;> cases read
  · cases read
  rename_i some noLead
  have whole : Digits ds := ⟨some, all⟩
  have lead : ∀ tail, ds = '0' :: tail → tail = [] := by
    rintro tail rfl
    cases tail with
    | nil => rfl
    | cons d tail => exact (noLead d tail rfl).elim
  rw [parts]
  split at read
  · rename_i rest'
    obtain ⟨fraction, read⟩ := digits_read read
    obtain ⟨e, laid, after⟩ := figure_sound read rfl whole lead fraction
    have behind := digits_split rest'
    rw [after] at behind
    refine ⟨_, laid, ?_⟩
    simpa using behind
  · obtain ⟨e, laid, rfl⟩ := figure_sound read rfl whole lead rfl
    exact ⟨_, laid, by simp⟩

/-! ### Values -/

mutual

theorem readValue_sound {room : Nat} {t rest : Text} {o : Outline}
    (read : readValue room t = (o, some rest)) :
    ∃ s w, Blank s ∧ Laid (.value o) w ∧ t = s ++ (w ++ rest) := by
  cases room with
  | zero => cases read
  | succ room =>
    obtain ⟨s, blank, parts⟩ := skipSpace_split t
    suffices ∃ w, Laid (.value o) w ∧ skipSpace t = w ++ rest by
      obtain ⟨w, laid, same⟩ := this
      exact ⟨s, w, blank, laid, by rw [← same, ← parts]⟩
    unfold readValue at read
    generalize skipSpace t = u at read
    split at read
    · cases read
    rename_i c cs
    obtain ⟨b, inner, opened⟩ := skipSpace_split cs
    split_ifs at read with null yes no mark minus digit list object
    · obtain ⟨rfl, rfl⟩ := readWord_sound read
      exact ⟨_, .null, by rw [null]; rfl⟩
    · obtain ⟨rfl, rfl⟩ := readWord_sound read
      exact ⟨_, .true, by rw [yes]; rfl⟩
    · obtain ⟨rfl, rfl⟩ := readWord_sound read
      exact ⟨_, .false, by rw [no]; rfl⟩
    · rcases string : readString cs with ⟨q, ends⟩
      rw [string] at read
      cases read
      obtain ⟨ps, w, rfl, pieces, rfl⟩ := readString_sound string
      exact ⟨_, .string pieces, by simp [mark]⟩
    · obtain ⟨w, laid, rfl⟩ := readNumber_sound read
      exact ⟨_, laid, by rw [minus]; rfl⟩
    · obtain ⟨w, laid, same⟩ := readNumber_sound read
      exact ⟨w, laid, same⟩
    · split at read
      · rename_i closed
        cases read
        exact ⟨_, .noItems inner, by rw [opened, closed]; simp [list]⟩
      · cases read
      · rcases items : readItems room (skipSpace cs) with ⟨⟨os, fault⟩, ends⟩
        rw [items] at read
        cases read
        obtain ⟨whole, w, laid, behind⟩ := readItems_sound items
        cases whole
        exact ⟨_, .array (items_blank inner laid), by rw [opened, behind]; simp [list]⟩
    · split at read
      · rename_i closed
        cases read
        exact ⟨_, .noMembers inner, by rw [opened, closed]; simp [object]⟩
      · rename_i us key
        rcases members : readMembers room us with ⟨⟨ms, fault⟩, ends⟩
        rw [members] at read
        cases read
        obtain ⟨whole, w, laid, rfl⟩ := readMembers_sound members
        cases whole
        exact ⟨_, .object (members_blank inner laid), by rw [opened, key]; simp [object]⟩
      · cases read
    · cases read

theorem readItems_sound {room : Nat} {t rest : Text} {r : List Outline × Option Fault}
    (read : readItems room t = (r, some rest)) :
    r.2 = none ∧ ∃ w, Laid (.items r.1) w ∧ t = w ++ ']' :: rest := by
  cases room with
  | zero => cases read
  | succ room =>
    unfold readItems at read
    rcases first : readValue room t with ⟨o, _ | behind⟩
    · rw [first] at read
      cases read
    rw [first] at read
    obtain ⟨s, w, before, value, rfl⟩ := readValue_sound first
    obtain ⟨b, after, parts⟩ := skipSpace_split behind
    dsimp only at read
    split at read
    · rename_i closed
      cases read
      exact ⟨rfl, _, .lastItem before value after, by rw [parts, closed]; simp⟩
    · rename_i us comma
      split at read
      · cases read
      · rcases items : readItems room (skipSpace us) with ⟨⟨os, fault⟩, ends⟩
        rw [items] at read
        cases read
        obtain ⟨whole, ws, laid, last⟩ := readItems_sound items
        cases whole
        obtain ⟨a, blank, split⟩ := skipSpace_split us
        refine ⟨rfl, _, .item before value after (items_blank blank laid), ?_⟩
        rw [parts, comma, split, last]
        simp
    · cases read

theorem readMembers_sound {room : Nat} {t rest : Text}
    {r : List (Quoted × Outline) × Option Fault} (read : readMembers room t = (r, some rest)) :
    r.2 = none ∧ ∃ w, Laid (.members r.1) ('"' :: w) ∧ t = w ++ '\x7d' :: rest := by
  cases room with
  | zero => cases read
  | succ room =>
    unfold readMembers at read
    rcases named : readString t with ⟨q, _ | afterKey⟩
    · rw [named] at read
      cases read
    rw [named] at read
    obtain ⟨ps, k, rfl, pieces, rfl⟩ := readString_sound named
    obtain ⟨b, afterName, parts⟩ := skipSpace_split afterKey
    dsimp only at read
    split at read
    · rename_i vs colon
      rcases first : readValue room vs with ⟨o, _ | behind⟩
      · rw [first] at read
        cases read
      rw [first] at read
      obtain ⟨c, w, before, value, rfl⟩ := readValue_sound first
      obtain ⟨d, after, parts'⟩ := skipSpace_split behind
      dsimp only at read
      split at read
      · rename_i closed
        cases read
        have laid := Laid.lastMember blank_nil pieces afterName before value after
        exact ⟨rfl, _, laid, by rw [parts, colon, parts', closed]; simp⟩
      · rename_i us comma
        split at read
        · rename_i us' mark
          rcases members : readMembers room us' with ⟨⟨ms, fault⟩, ends⟩
          rw [members] at read
          cases read
          obtain ⟨whole, ws, next, rfl⟩ := readMembers_sound members
          cases whole
          obtain ⟨a, blank, split⟩ := skipSpace_split us
          have laid := Laid.member blank_nil pieces afterName before value after
            (members_blank blank next)
          refine ⟨rfl, _, laid, ?_⟩
          rw [parts, colon, parts', comma, split, mark]
          simp
        · cases read
      · cases read
    · cases read

end

/-! ### Whole outlines -/

def Whole : Outline → Prop
  | .string q => q.fault = none
  | .array _ fault => fault = none
  | .object _ fault => fault = none
  | .cutNumber => False
  | .broken _ => False
  | _ => True

/-- A whole outline has been read to its end. -/
def Ended (r : Reading Outline) : Prop := r.1.Whole → ∃ rest, r.2 = some rest

def Closed {α : Type} (r : Reading (α × Option Fault)) : Prop :=
  r.1.2 = none → ∃ rest, r.2 = some rest

theorem readString_ended (t : Text) (whole : (readString t).1.fault = none) :
    ∃ rest, (readString t).2 = some rest := by
  fun_induction readString t with
  | case1 | case3 | case5 | case6 | case7 | case9 | case10 => cases whole
  | case2 rest => exact ⟨rest, rfl⟩
  | case4 _ _ _ _ _ _ _ _ ih => exact ih whole
  | case8 _ _ _ _ _ ih => exact ih whole
  | case11 _ _ _ _ _ _ _ ih => exact ih whole

theorem readWord_ended (value : Outline) (word t : Text) : Ended (readWord value word t) := by
  fun_induction readWord value word t with
  | case1 t => exact fun _ => ⟨t, rfl⟩
  | case2 | case4 => exact False.elim
  | case3 _ _ _ ih => exact ih

theorem lacksDigit_ended (t : Text) : Ended (lacksDigit t) := by
  unfold lacksDigit
  split <;> exact False.elim

theorem readExponent_ended (f : Figure) (t : Text) : Ended (readExponent f t) := by
  cases t with
  | nil => exact fun _ => ⟨[], rfl⟩
  | cons mark cs =>
    dsimp only [readExponent]
    split
    · split <;> split
      all_goals
        first
          | exact lacksDigit_ended _
          | exact fun _ => ⟨_, rfl⟩
    · exact fun _ => ⟨_, rfl⟩

theorem readNumber_ended (negative : Bool) (t : Text) : Ended (readNumber negative t) := by
  dsimp only [readNumber]
  split
  · exact lacksDigit_ended t
  · exact False.elim
  split
  · split
    · exact lacksDigit_ended _
    · exact readExponent_ended _ _
  · exact readExponent_ended _ _

theorem readItems_closed (room : Nat) (t : Text) : Closed (readItems room t) := by
  induction room generalizing t with
  | zero => exact nofun
  | succ room ih =>
    unfold readItems
    dsimp only
    split
    · exact nofun
    split
    · exact fun _ => ⟨_, rfl⟩
    · split
      · exact nofun
      · exact ih _
    · exact nofun

theorem readMembers_closed (room : Nat) (t : Text) : Closed (readMembers room t) := by
  induction room generalizing t with
  | zero => exact nofun
  | succ room ih =>
    unfold readMembers
    dsimp only
    split
    · exact nofun
    split
    · split
      · exact nofun
      split
      · exact fun _ => ⟨_, rfl⟩
      · split
        · exact ih _
        · exact nofun
      · exact nofun
    · exact nofun

theorem readValue_ended (room : Nat) (t : Text) : Ended (readValue room t) := by
  cases room with
  | zero => exact False.elim
  | succ room =>
    unfold readValue
    split
    · exact False.elim
    split_ifs
    · exact readWord_ended _ _ _
    · exact readWord_ended _ _ _
    · exact readWord_ended _ _ _
    · exact readString_ended _
    · exact readNumber_ended _ _
    · exact readNumber_ended _ _
    · split
      · exact fun _ => ⟨_, rfl⟩
      · exact nofun
      · exact readItems_closed _ _
    · split
      · exact fun _ => ⟨_, rfl⟩
      · exact readMembers_closed _ _
      · exact nofun
    · exact False.elim

theorem laidOut_of_read {room : Nat} {t rest : Text} {o : Outline}
    (read : readValue room t = (o, some rest)) (blank : skipSpace rest = []) : o.LaidOut t := by
  obtain ⟨a, w, before, laid, rfl⟩ := readValue_sound read
  obtain ⟨b, after, parts⟩ := skipSpace_split rest
  rw [blank, List.append_nil] at parts
  exact ⟨a, w, rest, before, laid, parts ▸ after, rfl⟩

theorem laidOut_of_whole {o : Outline} {t : Text} (read : Document.ofText t = ⟨o, false⟩)
    (whole : o.Whole) : o.LaidOut t := by
  unfold Document.ofText at read
  rcases value : readValue (2 * t.length + 2) t with ⟨o', ends⟩
  rw [value] at read
  cases ends with
  | none =>
    cases read
    have ended := readValue_ended (2 * t.length + 2) t
    rw [value] at ended
    obtain ⟨rest, last⟩ := ended whole
    cases last
  | some rest =>
    injection read with same blank
    subst same
    exact laidOut_of_read value (by simpa using blank)

end BookingRetry.Json.Outline
