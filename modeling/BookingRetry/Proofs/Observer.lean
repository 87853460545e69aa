import BookingRetry.Observer
import BookingRetry.Proofs.Log.Journal
import BookingRetry.Proofs.Outcome

/-!
What the end of a log says, in terms of the lines that were written to it. A text that is written
as a record is taken for a marker only if it starts like one, and a text that is written as it is
only if it starts with a bracket and ends like one.
-/
namespace BookingRetry

structure Unmarked (line : Text) : Prop where
  single : Text.Single line
  silent : FinalState.ofLine? line = none

/-- Neither a blank nor the first character of a marker stands in front. -/
def Text.opensPlainly : Text → Bool
  | [] => false
  | c :: _ => !isBlankChar c && c ≠ '='

theorem unmarked_record {stamp : Stamp} {level : Log.Level} {message : Text}
    (plain : message.opensPlainly = true) :
    Unmarked (Log.Record.written ⟨stamp, level, Text.folded message⟩) := by
  refine ⟨Log.written_single (Text.folded_single message), ?_⟩
  apply FinalState.ofLine?_eq_none_of_message
  cases message with
  | nil => contradiction
  | cons c rest =>
    simp only [Text.opensPlainly, Bool.and_eq_true, Bool.not_eq_true', decide_eq_true_eq] at plain
    show (Text.folded (c :: rest)).head? ≠ some '='
    rw [Text.folded_starts plain.1]
    simpa using plain.2

theorem unmarked_of_start {c : Char} (visible : Text.isBlankChar c = false) (other : c ≠ '[')
    (rest : Text) : Unmarked (Text.folded (c :: rest)) := by
  refine ⟨Text.folded_single _, FinalState.ofLine?_eq_none_of_start ?_⟩
  rw [Text.folded_starts visible]
  simpa using other

theorem unmarked_of_end {c : Char} (visible : Text.isBlankChar c = false) (other : c ≠ '=')
    (front : Text) : Unmarked (Text.folded (front ++ [c])) := by
  refine ⟨Text.folded_single _, FinalState.ofLine?_eq_none_of_end ?_⟩
  rw [Text.folded_ends visible]
  simpa using other

namespace Log

/-- Whatever a header says, none of its lines is taken for a marker. -/
theorem Header.lines_unmarked (h : Header) (start : Stamp) :
    ∀ t ∈ h.lines start, Unmarked (Text.folded t) := by
  have name : Unmarked (Text.folded (h.engineName ++ lit " retry start")) := by
    have last : h.engineName ++ lit " retry start" =
        (h.engineName ++ lit " retry star") ++ ['t'] := by
      rw [List.append_assoc]
      rfl
    rw [last]
    exact unmarked_of_end rfl (by decide) _
  intro t member
  simp only [Header.lines, List.mem_cons, List.not_mem_nil, or_false] at member
  rcases member with rfl | rfl | rfl | rfl | rfl | rfl | rfl | rfl | rfl | rfl
  case inr.inl => exact name
  all_goals exact unmarked_of_start rfl (by decide) _

theorem Journal.rawAll_cases {j : Journal} (opened : j.isOpen = true) {whole : List Text}
    {ts : List Text} (h : Holds j.sink.bytes whole []) (silent : ∀ l ∈ whole, Unmarked l)
    (unmarked : ∀ t ∈ ts, Unmarked (Text.folded t)) :
    (rawAll ts j).2.isOpen = true ∧ ∃ whole' part, (∀ l ∈ whole', Unmarked l) ∧
      Holds (rawAll ts j).2.sink.bytes whole' part ∧ ((rawAll ts j).1 = .ok () → part = []) := by
  induction ts generalizing j whole with
  | nil => exact ⟨opened, whole, [], silent, h, fun _ => rfl⟩
  | cons t ts ih =>
    have first := unmarked t List.mem_cons_self
    obtain ⟨still, cases⟩ := write_cases opened h first.single
    unfold rawAll raw
    cases step : j.write (Text.folded t) with
    | mk result after =>
      rw [step] at still cases
      rcases cases with ⟨written, holds⟩ | ⟨f, part, failed, holds⟩
      · cases written
        refine ih still holds ?_ fun t member => unmarked t (List.mem_cons_of_mem _ member)
        intro l member
        rcases List.mem_append.mp member with old | new
        · exact silent l old
        · rwa [List.mem_singleton.mp new]
      · cases failed
        refine ⟨still, whole, part, silent, holds, ?_⟩
        intro written
        contradiction

end Log

namespace TailReport

theorem decode_encodeLines (ls : List Text) :
    Utf8.decodeLossy (Log.encodeLines ls) = ls.flatMap fun l => l ++ ['\n'] := by
  rw [Log.encodeLines_eq, Utf8.decodeLossy_encode]

theorem lines_encodeLines {ls : List Text} (single : ∀ l ∈ ls, Text.Single l) :
    Text.lines (Utf8.decodeLossy (Log.encodeLines ls)) = ls := by
  rw [decode_encodeLines, Text.lines_written single]

theorem finalState_encodeLines {ls : List Text} (single : ∀ l ∈ ls, Text.Single l) (shown : Nat) :
    (ofBytes shown (Log.encodeLines ls)).finalState = lastState? ls := by
  unfold ofBytes
  rw [lines_encodeLines single]

theorem lastState?_unmarked {ls : List Text} (silent : ∀ l ∈ ls, Unmarked l) :
    lastState? ls = none := by
  unfold lastState?
  rw [List.findSome?_eq_none_iff]
  intro l member
  exact (silent l (List.mem_reverse.mp member)).silent

theorem lastState?_concat (ls : List Text) {last : Text} {s : FinalState}
    (marked : FinalState.ofLine? last = some s) : lastState? (ls ++ [last]) = some s := by
  unfold lastState?
  rw [List.reverse_append]
  simp [marked]

end TailReport

end BookingRetry
