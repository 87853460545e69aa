import BookingRetry.Json.Printer
import BookingRetry.Proofs.Json.Grammar
import BookingRetry.Proofs.Json.Settled

/-!
The compact text of a value is JSON and says the value, if the value has no binary number. Every
character is written so that it is read back, and so is every whole number of sixty-four bits.
-/
namespace BookingRetry

namespace Numeral

theorem written_head {n : Nat} (positive : 0 < n) : (written n).head? ≠ some '0' := by
  induction n using Nat.strongRecOn with
  | ind n ih =>
    by_cases small : n < 10
    · have other : ∀ d < 10, 0 < d → digitChar d ≠ '0' := by decide
      rw [written_small small]
      simpa using other n small positive
    · rw [written_large small, List.head?_append_of_ne_nil _ (written_digits _).1]
      exact ih (n / 10) (by omega) (by omega)

theorem written_lead {n : Nat} {ds : Text} (zero : written n = '0' :: ds) : ds = [] := by
  cases n with
  | zero =>
    rw [written_small (by decide)] at zero
    cases zero
    rfl
  | succ n =>
    have head := written_head (Nat.succ_pos n)
    rw [zero] at head
    exact absurd rfl head

end Numeral

namespace Json

open Outline (simpleEscapes hexUnit?)

variable {alone : Option Char}

/-! ### Strings -/

theorem hexUnit?_hexDigit : ∀ n < 0x20,
    hexUnit? '0' '0' (Numeral.hexDigit (n / 16)) (Numeral.hexDigit (n % 16)) = some n := by
  decide

theorem shortEscapes_listed : ∀ e ∈ shortEscapes, (e.2, e.1) ∈ simpleEscapes := by decide

theorem writtenChar_spells (c : Char) {t w : Text} (rest : StringText alone t w) :
    StringText alone (c :: t) (writtenChar c ++ w) := by
  unfold writtenChar
  split
  · rename_i e found
    have same : e.1 = c := by simpa using List.find?_some found
    have listed := shortEscapes_listed e (List.mem_of_find?_eq_some found)
    rw [same] at listed
    exact .simple listed rest
  · rename_i absent
    have other : ∀ e ∈ shortEscapes, e.1 ≠ c := by simpa using absent
    split
    · rename_i control
      have hex := hexUnit?_hexDigit c.toNat control
      have text := StringText.unit hex (by simp [isHighHalf]; omega) (by simp [isLowHalf]; omega)
        rest
      rwa [Char.ofNat_toNat] at text
    · rename_i printed
      have mark := other ('"', '"') (by decide)
      have escape := other ('\\', '\\') (by decide)
      exact .plain mark.symm escape.symm (Nat.le_of_not_lt printed) rest

theorem writtenString_spells (t : Text) : StringText alone t (t.flatMap writtenChar) := by
  induction t with
  | nil => exact .nil
  | cons c t ih => exact writtenChar_spells c ih

/-! ### Numbers -/

theorem Figure.number?_plain {ds : Text} (fits : Numeral.value ds ≤ Numeral.maxWord) :
    Figure.number? ⟨false, ds, [], none, false⟩ = some (.whole (Numeral.value ds)) := by
  unfold Figure.number?
  exact if_pos (by simpa using fits)

theorem Figure.number?_negated {ds : Text} (nonzero : Numeral.value ds ≠ 0)
    (fits : Numeral.value ds ≤ Nat.pow 2 63) :
    Figure.number? ⟨true, ds, [], none, false⟩ = some (.whole (-(Numeral.value ds : Int))) := by
  unfold Figure.number?
  refine (if_neg (by simp)).trans (if_pos ?_)
  rw [decide_eq_true nonzero, decide_eq_true fits]
  rfl

theorem figureText_written (negative : Bool) (n : Nat) :
    FigureText ⟨negative, Numeral.written n, [], none, false⟩
      ((if negative then ['-'] else []) ++ Numeral.written n) := by
  obtain ⟨some, all, -⟩ := Numeral.written_digits n
  exact ⟨⟨some, all⟩, fun _ zero => Numeral.written_lead zero, rfl, [], .none, by simp⟩

theorem writtenInt_spells {n : Int} (whole : (Value.number (.whole n)).Whole) :
    Spells alone (.value (.number (.whole n))) (Numeral.writtenInt n) := by
  obtain ⟨low, high⟩ := whole
  have value := (Numeral.written_digits n.natAbs).2.2
  unfold Numeral.writtenInt
  split
  · rename_i negative
    refine .number (figureText_written true n.natAbs) ?_
    have back : -(n.natAbs : Int) = n := by omega
    have number := Figure.number?_negated (by rw [value]; omega) (by rw [value]; omega)
    rwa [value, back] at number
  · refine .number (figureText_written false n.natAbs) ?_
    have back : (n.natAbs : Int) = n := by omega
    have number := Figure.number?_plain (by rw [value]; omega)
    rwa [value, back] at number

/-! ### Items and members without white space -/

section Compact

variable {v : Value} {vs : List Value} {ms : Members} {key k w ws : Text}

theorem compact_lastItem (value : Spells alone (.value v) w) : Spells alone (.items [v]) w := by
  have spells := Spells.lastItem blank_nil value blank_nil
  rwa [List.nil_append, List.append_nil] at spells

theorem compact_item (value : Spells alone (.value v) w) (rest : Spells alone (.items vs) ws) :
    Spells alone (.items (v :: vs)) (w ++ ',' :: ws) :=
  .item blank_nil value blank_nil rest

theorem compact_lastMember (name : StringText alone key k) (value : Spells alone (.value v) w) :
    Spells alone (.members [(key, v)]) ('"' :: (k ++ '"' :: ':' :: w)) := by
  have spells := Spells.lastMember blank_nil name blank_nil blank_nil value blank_nil
  rwa [List.nil_append, List.nil_append, List.nil_append, List.append_nil] at spells

theorem compact_member (name : StringText alone key k) (value : Spells alone (.value v) w)
    (rest : Spells alone (.members ms) ws) :
    Spells alone (.members ((key, v) :: ms)) ('"' :: (k ++ '"' :: ':' :: (w ++ ',' :: ws))) :=
  .member blank_nil name blank_nil blank_nil value blank_nil rest

end Compact

/-! ### Values -/

mutual

theorem written_spells {v : Value} (whole : v.Each Value.Whole) :
    Spells alone (.value v) v.written := by
  cases v with
  | null => exact .null
  | bool b => cases b <;> constructor
  | number n =>
    cases n with
    | whole n => exact writtenInt_spells whole
    | binary negative magnitude => exact absurd whole id
  | string t => exact .string (writtenString_spells t)
  | array items =>
    cases items with
    | nil => exact .noItems blank_nil
    | cons v vs => exact .array (writtenItems_spells (List.cons_ne_nil v vs) whole.2)
  | object members =>
    cases members with
    | nil => exact .noMembers blank_nil
    | cons m ms => exact .object (writtenMembers_spells (List.cons_ne_nil m ms) whole.2)

theorem writtenItems_spells {vs : List Value} (some : vs ≠ [])
    (whole : Value.EachItem Value.Whole vs) :
    Spells alone (.items vs) (Text.joined [','] (writtenItems vs)) := by
  cases vs with
  | nil => contradiction
  | cons v vs =>
    have first := written_spells whole.1
    cases vs with
    | nil =>
      have single := compact_lastItem first
      simpa [writtenItems, Text.joined] using single
    | cons u us =>
      have rest := writtenItems_spells (List.cons_ne_nil u us) whole.2
      have step := compact_item first rest
      simpa [writtenItems, Text.joined] using step

theorem writtenMembers_spells {ms : List (Text × Value)} (some : ms ≠ [])
    (whole : Value.EachMember Value.Whole ms) :
    Spells alone (.members ms) (Text.joined [','] (writtenMembers ms)) := by
  cases ms with
  | nil => contradiction
  | cons m ms =>
    obtain ⟨key, v⟩ := m
    have name : StringText alone key (key.flatMap writtenChar) := writtenString_spells key
    have first := written_spells whole.1
    cases ms with
    | nil =>
      have single := compact_lastMember name first
      simpa [writtenMembers, writtenString, Text.joined] using single
    | cons n ns =>
      have rest := writtenMembers_spells (List.cons_ne_nil n ns) whole.2
      have step := compact_member name first rest
      simpa [writtenMembers, writtenString, Text.joined] using step

end

theorem written_isText {v : Value} (whole : v.Each Value.Whole) : IsText v v.written :=
  ⟨[], v.written, [], blank_nil, written_spells whole, blank_nil, by simp⟩

end Json

end BookingRetry
