import BookingRetry.Proofs.Log.Journal
import BookingRetry.Proofs.Log.Record

/-!
What is written to a log is read back entry by entry: a record with its folded message, any other
line as the line that it is, and both are written again as they were.
-/
namespace BookingRetry.Log

inductive Posting where
  | record (stamp : Stamp) (level : Level) (message : Text)
  | raw (t : Text)
  | header (start : Stamp) (h : Header)

namespace Posting

/-- What is to be read back, one entry for each line. -/
def entries : Posting → List Line
  | record stamp level message => [.record ⟨stamp, level, Text.folded message⟩]
  | raw t => [Line.ofText (Text.folded t)]
  | header start h => (h.lines start).map fun t => Line.ofText (Text.folded t)

def size : Posting → Nat
  | record .. => 1
  | raw _ => 1
  | header .. => 10

def lines (p : Posting) : List Text := p.entries.map Line.written

end Posting

namespace Journal

def post (p : Posting) (j : Journal) : Except FileFault Unit × Journal :=
  match p with
  | .record stamp level message => j.record stamp level message
  | .raw t => j.raw t
  | .header start h => j.header start h

def postAll : List Posting → Journal → List (Except FileFault Unit) × Journal
  | [], j => ([], j)
  | p :: ps, j =>
    let first := j.post p
    let rest := postAll ps first.2
    (first.1 :: rest.1, rest.2)

end Journal

theorem Posting.entries_length (p : Posting) : p.entries.length = p.size := by
  cases p <;> rfl

theorem Posting.lines_raw (t : Text) : (Posting.raw t).lines = [Text.folded t] :=
  congrArg (fun l => [l]) (written_ofText _)

theorem Posting.lines_header (start : Stamp) (h : Header) :
    (Posting.header start h).lines = (h.lines start).map Text.folded := by
  unfold Posting.lines Posting.entries
  rw [List.map_map]
  exact List.map_congr_left fun t _ => written_ofText _

theorem Posting.lines_single (p : Posting) : ∀ l ∈ p.lines, Text.Single l := by
  intro l member
  obtain ⟨entry, inside, rfl⟩ := List.mem_map.mp member
  cases p with
  | record stamp level message =>
    rw [List.mem_singleton.mp inside]
    exact written_single (Text.folded_single message)
  | raw t =>
    rw [List.mem_singleton.mp inside, written_ofText]
    exact Text.folded_single t
  | header start h =>
    obtain ⟨t, _, rfl⟩ := List.mem_map.mp inside
    rw [written_ofText]
    exact Text.folded_single t

theorem Posting.lines_read (p : Posting) : p.lines.map Line.ofText = p.entries := by
  unfold Posting.lines
  rw [List.map_map]
  cases p with
  | record stamp level message => exact congrArg (· :: []) (ofText_written _)
  | raw t => exact congrArg (fun l => [Line.ofText l]) (written_ofText _)
  | header start h =>
    unfold Posting.entries
    rw [List.map_map]
    apply List.map_congr_left
    intro t _
    exact congrArg Line.ofText (written_ofText _)

namespace Journal

variable {j : Journal}

theorem post_ok (opened : j.isOpen = true) {p : Posting} (written : (j.post p).1 = .ok ()) :
    (j.post p).2.isOpen = true ∧
      (j.post p).2.sink.bytes = j.sink.bytes ++ encodeLines p.lines := by
  cases p with
  | record stamp level message =>
    obtain ⟨still, bytes⟩ := write_ok opened written
    exact ⟨still, bytes.trans (by simp [Posting.lines, Posting.entries, Line.written, encodeLines])⟩
  | raw t =>
    obtain ⟨still, bytes⟩ := write_ok opened written
    refine ⟨still, bytes.trans ?_⟩
    simp [Posting.lines_raw, encodeLines]
  | header start h =>
    obtain ⟨still, bytes⟩ := rawAll_ok opened written
    refine ⟨still, bytes.trans ?_⟩
    rw [Posting.lines_header]

theorem post_sound (h : j.Sound) (p : Posting) : (j.post p).1 = .ok () ∧ (j.post p).2.Sound := by
  cases p with
  | record | raw => exact write_sound h _
  | header start header => exact rawAll_sound h _

theorem postAll_ok (opened : j.isOpen = true) {ps : List Posting}
    (written : ∀ r ∈ (postAll ps j).1, r = .ok ()) :
    (postAll ps j).2.sink.bytes = j.sink.bytes ++ encodeLines (ps.flatMap Posting.lines) := by
  induction ps generalizing j with
  | nil => exact (List.append_nil _).symm
  | cons p ps ih =>
    simp only [postAll, List.forall_mem_cons] at written
    obtain ⟨still, bytes⟩ := post_ok opened written.1
    have rest := ih still written.2
    show (postAll ps (j.post p).2).2.sink.bytes = _
    rw [rest, bytes, List.append_assoc, List.flatMap_cons]
    exact congrArg (j.sink.bytes ++ ·) List.flatMap_append.symm

theorem postAll_sound (h : j.Sound) (ps : List Posting) : ∀ r ∈ (postAll ps j).1, r = .ok () := by
  induction ps generalizing j with
  | nil => nofun
  | cons p ps ih =>
    obtain ⟨written, sound⟩ := post_sound h p
    simp only [postAll, List.forall_mem_cons]
    exact ⟨written, ih sound⟩

end Journal

/-- A log is read back: it is a text whose lines are these entries, and the entries written one
after another are the log again. -/
structure ReadsBack (bytes : Bytes) (entries : List Line) : Prop where
  text : ∃ content, Utf8.decode? bytes = some content ∧ readLines content = entries
  written_again : encodeLines (entries.map Line.written) = bytes

/-- Postings to a log that was empty are read back, one entry for each record and each text and ten
for each header, if none of them failed; and none fails where the file takes everything. -/
theorem postings_read_back {j : Journal} (opened : j.isOpen = true) (empty : j.sink.bytes = [])
    (ps : List Posting) :
    (∀ p ∈ ps, p.entries.length = p.size) ∧
    (j.Sound → ∀ r ∈ (j.postAll ps).1, r = .ok ()) ∧
    ((∀ r ∈ (j.postAll ps).1, r = .ok ()) →
      ReadsBack (j.postAll ps).2.sink.bytes (ps.flatMap Posting.entries)) := by
  refine ⟨fun p _ => p.entries_length, fun sound => Journal.postAll_sound sound ps, ?_⟩
  intro written
  have bytes := Journal.postAll_ok opened written
  rw [empty, List.nil_append] at bytes
  have single : ∀ l ∈ ps.flatMap Posting.lines, Text.Single l := by
    intro l member
    obtain ⟨p, _, inside⟩ := List.mem_flatMap.mp member
    exact p.lines_single l inside
  constructor
  · refine ⟨(ps.flatMap Posting.lines).flatMap fun l => l ++ ['\n'], ?_, ?_⟩
    · rw [bytes, encodeLines_eq, Utf8.decode?_encode]
    · unfold readLines
      rw [Text.lines_written single, List.map_flatMap]
      exact congrArg ps.flatMap (funext Posting.lines_read)
  · rw [bytes, List.map_flatMap]
    rfl

def trickyPostings : List Posting :=
  [.raw (lit "\r\n \r"), .record .epoch .warn (lit "a] b: c\r\n\r\n d\re \r"),
   .raw (lit "[1970-01-01 00:00:00] INFO: x: \n y")]

theorem tricky_postings_read_back :
    (({} : Journal).isOpen = true ∧ ({} : Journal).sink.bytes = []) ∧
    ReadsBack (({} : Journal).postAll trickyPostings).2.sink.bytes
      [.raw [], .record ⟨.epoch, .warn, lit "a] b: c / d\re"⟩,
       .record ⟨.epoch, .info, lit "x: / y"⟩] := by
  have sound : ({} : Journal).Sound := ⟨rfl, fun _ => rfl, rfl⟩
  obtain ⟨_, takes, reads⟩ := @postings_read_back {} rfl rfl trickyPostings
  have entries : trickyPostings.flatMap Posting.entries =
      [.raw [], .record ⟨.epoch, .warn, lit "a] b: c / d\re"⟩,
       .record ⟨.epoch, .info, lit "x: / y"⟩] := by decide +kernel
  have back := reads (takes sound)
  rw [entries] at back
  exact ⟨⟨rfl, rfl⟩, back⟩

end BookingRetry.Log
