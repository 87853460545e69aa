import BookingRetry.Proofs.Log.Mirroring
import BookingRetry.Proofs.Text.Folding

/-!
The lines of a log and the texts that were put into it. Every text has one line to itself, without a
line feed in it; a carriage return is left on the line if it stood inside a line of the text.
-/
namespace BookingRetry.Log

namespace Posting

/-- What the log puts in front of a text. -/
def front : Posting → Text
  | record stamp level _ => Record.written ⟨stamp, level, []⟩
  | raw _ => []
  | header _ _ => []

def texts : Posting → List Text
  | record _ _ message => [message]
  | raw t => [t]
  | header start h => h.lines start

end Posting

/-- What becomes of a text on the line that it was folded into. -/
structure FoldedOnto (t line : Text) : Prop where
  unbroken : '\n' ∉ line
  return_iff : '\r' ∈ line ↔ Text.KeepsReturn t
  again : Text.folded (Text.folded t) = Text.folded t
  kept : ∃ ps, Text.folded t = Text.joined Text.slash ps ∧
    Text.withoutBlanks ps.flatten = Text.withoutBlanks t

theorem Posting.lines_eq (p : Posting) :
    p.lines = p.texts.map fun t => p.front ++ Text.folded t := by
  cases p with
  | record stamp level message =>
    simp [Posting.lines, entries, texts, front, Line.written, Record.written]
  | raw t => exact lines_raw t
  | header start h => exact lines_header start h

theorem Posting.not_mem_front {c : Char} (mark : c = '\n' ∨ c = '\r') (p : Posting) :
    c ∉ p.front := by
  cases p with
  | record stamp level _ =>
    have stamped : c ∉ stamp.written := by
      rcases mark with rfl | rfl <;> exact Stamp.not_mem_written rfl stamp
    have named : c ∉ level.name := by
      rcases mark with rfl | rfl <;> exact Level.not_mem_name rfl level
    have marks : c ∉ ['['] ∧ c ∉ stampEnd ∧ c ∉ levelEnd := by
      rcases mark with rfl | rfl <;> decide
    show c ∉ Record.written ⟨stamp, level, []⟩
    rw [written_eq]
    simp only [List.mem_append, not_or]
    exact ⟨marks.1, stamped, marks.2.1, named, marks.2.2, List.not_mem_nil⟩
  | raw | header => exact List.not_mem_nil

theorem Posting.folded_onto (p : Posting) (t : Text) : FoldedOnto t (p.front ++ Text.folded t) where
  unbroken := by
    rw [List.mem_append, not_or]
    exact ⟨p.not_mem_front (Or.inl rfl), (Text.folded_single t).unbroken⟩
  return_iff := by
    rw [List.mem_append, or_iff_right (p.not_mem_front (Or.inr rfl))]
    exact Text.return_mem_folded_iff t
  again := Text.folded_folded t
  kept := Text.folded_keeps_withoutBlanks t

/-! ### What is written of the lines -/

namespace Journal

variable {j : Journal}

def shown (j : Journal) : List Text := j.mirror.elim [] Mirror.shown

theorem write_shown (line : Text) (j : Journal) :
    ∃ taken, taken.Sublist [line] ∧ (j.write line).2.shown = j.shown ++ taken := by
  unfold shown
  rw [write_mirror, mirrorAfter]
  cases j.mirror with
  | none => exact ⟨[], List.nil_sublist _, rfl⟩
  | some m =>
    simp only [Option.map_some, Option.elim_some, Mirror.offer]
    split
    · exact ⟨[line], List.Sublist.refl _, rfl⟩
    · exact ⟨[], List.nil_sublist _, (List.append_nil _).symm⟩

theorem writeAll_shown (ls : List Text) (j : Journal) :
    ∃ taken, taken.Sublist ls ∧ (j.writeAll ls).2.shown = j.shown ++ taken := by
  induction ls generalizing j with
  | nil => exact ⟨[], List.Sublist.refl _, (List.append_nil _).symm⟩
  | cons l ls ih =>
    obtain ⟨first, one, eq⟩ := write_shown l j
    unfold writeAll
    cases step : j.write l with
    | mk result after =>
      rw [step] at eq
      cases result with
      | error f => exact ⟨first, one.trans (List.singleton_sublist.mpr List.mem_cons_self), eq⟩
      | ok u =>
        obtain ⟨rest, some, more⟩ := ih after
        refine ⟨first ++ rest, one.append some, ?_⟩
        rw [more, eq, List.append_assoc]

theorem writeAll_bytes (ls : List Text) (j : Journal) :
    ∃ written, written <+: encodeLines ls ∧
      (j.writeAll ls).2.sink.bytes = j.sink.bytes ++ written := by
  cases opened : j.isOpen with
  | false =>
    have same := (Detached.writeAll ⟨opened, rfl⟩ ls : (j.writeAll ls).2.Detached j.sink).2
    exact ⟨[], List.nil_prefix, by rw [same, List.append_nil]⟩
  | true =>
    induction ls generalizing j with
    | nil => exact ⟨[], List.nil_prefix, (List.append_nil _).symm⟩
    | cons l ls ih =>
      have step := write_of_open opened l
      unfold writeAll
      rw [step]
      rcases Sink.append_cases j.sink (encodeLine_nonempty l) with
        ⟨written, bytes⟩ | ⟨f, m, failed, _, bytes⟩
      · obtain ⟨more, front, eq⟩ := ih
          ⟨(j.sink.append (encodeLine l)).2, true, j.mirrorAfter l⟩ rfl
        refine ⟨encodeLine l ++ more, List.prefix_append_right_inj _ |>.mpr front, ?_⟩
        rw [written]
        simp only
        rw [eq, bytes, List.append_assoc]
      · refine ⟨(encodeLine l).take m, ?_, ?_⟩
        · exact (List.take_prefix _ _).trans (List.prefix_append _ _)
        · rw [failed]
          exact bytes

end Journal

/-- Each text that is put into a log is folded onto one line behind what the log puts in front of
it, and nothing else comes into the file or the mirror: the file goes on with these lines, up to
where a write failed, and the mirror with those that it took. -/
theorem posting_folded_onto_lines (p : Posting) (j : Journal) :
    p.lines = (p.texts.map fun t => p.front ++ Text.folded t) ∧
    (∀ t ∈ p.texts, FoldedOnto t (p.front ++ Text.folded t)) ∧
    (∃ written, written <+: encodeLines p.lines ∧
      (j.post p).2.sink.bytes = j.sink.bytes ++ written ∧
      (j.isOpen = true → (j.post p).1 = .ok () → written = encodeLines p.lines)) ∧
    ∃ taken, taken.Sublist p.lines ∧ (j.post p).2.shown = j.shown ++ taken := by
  refine ⟨p.lines_eq, fun t _ => p.folded_onto t, ?_, ?_⟩
  · obtain ⟨written, front, bytes⟩ := Journal.writeAll_bytes p.lines j
    rw [← Journal.post_eq_writeAll] at bytes
    refine ⟨written, front, bytes, ?_⟩
    intro opened well
    have all := (Journal.post_ok opened well).2
    rw [bytes] at all
    exact List.append_cancel_left all
  · rw [Journal.post_eq_writeAll]
    exact Journal.writeAll_shown p.lines j

theorem lone_return_written :
    let p := Posting.record .epoch .info (lit "a\rb")
    (({} : Journal).post p).2.sink.bytes =
        encodeLine (lit "[1970-01-01 00:00:00] INFO: a\rb") ∧
      '\r' ∈ lit "[1970-01-01 00:00:00] INFO: a\rb" := by
  decide +kernel

end BookingRetry.Log
