import BookingRetry.Proofs.Observer.Reading

/-!
A log that is written on behind an earlier one. A tail takes it as one log: it reports what the
later lines state, and if they state nothing, what the earlier ones did. Where the earlier log
breaks off in the middle of a line, that line is completed by the first one of the later log.
-/
namespace BookingRetry

theorem TailReport.lastState?_append (ls more : List Text) :
    lastState? (ls ++ more) = (lastState? more).or (lastState? ls) := by
  rw [lastState?, List.reverse_append, List.findSome?_append]
  rfl

theorem FinalState.ofLine?_closes {line : Text} {s : FinalState}
    (marked : ofLine? line = some s) : closing <:+ line := by
  unfold ofLine? at marked
  obtain ⟨r, found, reads⟩ := Option.bind_eq_some_iff.mp marked
  obtain ⟨front, rfl⟩ := Log.record?_eq_some found
  have closes : closing <:+ r.message := by
    unfold read? at reads
    split at reads
    · contradiction
    · rename_i rest start
      split at reads
      · contradiction
      · rename_i body stop
        rw [Text.after?_eq_some start, Text.before?_eq_some stop, ← List.append_assoc]
        exact List.suffix_append _ _
  exact closes.trans (List.suffix_append ('[' :: front) r.message)

theorem FinalState.ofLine?_rule (front : Text) : ofLine? (front ++ Log.rule) = none := by
  rw [Option.eq_none_iff_forall_ne_some]
  intro s marked
  have closes := ofLine?_closes marked
  have ends : List.replicate 6 '=' <:+ front ++ Log.rule :=
    List.IsSuffix.trans ⟨List.replicate 54 '=', rfl⟩ (List.suffix_append front Log.rule)
  have same : closing = List.replicate 6 '=' :=
    (List.suffix_of_suffix_length_le closes ends (by decide)).eq_of_length rfl
  exact absurd same (by decide)

namespace Follow

def stateOfLines? (bs : Bytes) : Option FinalState :=
  TailReport.lastState? ((wholeLines bs).map textOf)

theorem finalState_eq (bs : Bytes) (shown : Nat) :
    (TailReport.ofBytes shown bs).finalState =
      (TailReport.lastState? (leftover bs)).or (stateOfLines? bs) := by
  show TailReport.lastState? (Text.lines (Utf8.decodeLossy bs)) = _
  rw [lines_eq, TailReport.lastState?_append, stateOfLines?]

variable {l : Bytes}

theorem isLine_unfinished (earlier : Bytes) (line : IsLine l) :
    IsLine (unfinished earlier ++ l) := by
  obtain ⟨body, unbroken, rfl⟩ := line
  have clean := (splitBytes_spec earlier).2.1
  exact ⟨unfinished earlier ++ body, by simp [clean, unbroken], by rw [List.append_assoc]⟩

theorem splitBytes_onto (earlier : Bytes) (line : IsLine l) (rest : Bytes) :
    splitBytes (earlier ++ (l ++ rest)) =
      (wholeLines earlier ++ (unfinished earlier ++ l) :: wholeLines rest, unfinished rest) := by
  have joined := splitBytes_line (isLine_unfinished earlier line) rest
  rw [List.append_assoc] at joined
  have lines : wholeLines (unfinished earlier ++ (l ++ rest)) =
      (unfinished earlier ++ l) :: wholeLines rest := congrArg Prod.fst joined
  have left : unfinished (unfinished earlier ++ (l ++ rest)) = unfinished rest :=
    (congrArg Prod.snd joined :)
  rw [splitBytes_append, lines, left]

theorem finalState_onto {earlier : Bytes} (line : IsLine l)
    (silent : FinalState.ofLine? (textOf l) = none)
    (joined : FinalState.ofLine? (textOf (unfinished earlier ++ l)) = none) (rest : Bytes)
    (shown : Nat) :
    (TailReport.ofBytes shown (earlier ++ (l ++ rest))).finalState =
      (TailReport.ofBytes shown (l ++ rest)).finalState.or (stateOfLines? earlier) := by
  have onto := splitBytes_onto earlier line rest
  have alone := splitBytes_line line rest
  have left : leftover (earlier ++ (l ++ rest)) = leftover (l ++ rest) := by
    simp only [leftover, unfinished, onto, alone]
  have old : stateOfLines? (earlier ++ (l ++ rest)) =
      (stateOfLines? rest).or (stateOfLines? earlier) := by
    have lines : wholeLines (earlier ++ (l ++ rest)) =
        wholeLines earlier ++ ([unfinished earlier ++ l] ++ wholeLines rest) := by
      rw [wholeLines, onto]
      rfl
    simp only [stateOfLines?, lines, List.map_append, TailReport.lastState?_append]
    simp [TailReport.lastState?, joined]
  have new : stateOfLines? (l ++ rest) = stateOfLines? rest := by
    have lines : wholeLines (l ++ rest) = [l] ++ wholeLines rest := by
      rw [wholeLines, alone]
      rfl
    simp only [stateOfLines?, lines, List.map_append, TailReport.lastState?_append]
    simp [TailReport.lastState?, silent]
  rw [finalState_eq, finalState_eq, left, old, new, Option.or_assoc]

theorem textOf_onto (bs : Bytes) {c : Char} {cs : Text} (small : c.toNat < 0x80)
    (single : Text.Single (c :: cs)) :
    textOf (bs ++ Log.encodeLine (c :: cs)) = Utf8.decodeLossy bs ++ c :: cs := by
  have byte : c.toNat.toUInt8.toNat = c.toNat := Utf8.byte_toNat (by omega)
  have bytes : Utf8.encode (c :: cs) = c.toNat.toUInt8 :: Utf8.encode cs := by
    simp [Utf8.encode, Utf8.encodeChar, small]
  have read : Utf8.decodeLossy (bs ++ Utf8.encode (c :: cs)) = Utf8.decodeLossy bs ++ c :: cs := by
    rw [bytes, Utf8.decodeLossy_small bs (by omega), byte, Char.ofNat_toNat,
      Utf8.decodeLossy_encode]
  have whole : (Utf8.decodeLossy bs ++ c :: cs).getLast? ≠ some '\r' := by
    rw [Text.last_of_append _ (List.cons_ne_nil _ _)]
    exact single.whole
  rw [textOf, Log.encodeLine_eq, ← List.append_assoc, List.dropLast_concat, read,
    Text.withoutReturn_whole whole]

theorem rule_single : Text.Single Log.rule := ⟨by decide, by decide⟩

/-- A tail of a log that was opened behind an earlier one: its own lines come first, then those of
the earlier log. -/
theorem finalState_reused (earlier rest : Bytes) (shown : Nat) :
    (TailReport.ofBytes shown (earlier ++ (Log.encodeLine Log.rule ++ rest))).finalState =
      (TailReport.ofBytes shown (Log.encodeLine Log.rule ++ rest)).finalState.or
        (stateOfLines? earlier) := by
  have line : IsLine (Log.encodeLine Log.rule) := isLine_encodeLine rule_single
  refine finalState_onto line ?_ ?_ rest shown
  · rw [textOf_encodeLine rule_single]
    exact FinalState.ofLine?_rule []
  · have text : textOf (unfinished earlier ++ Log.encodeLine Log.rule) =
        Utf8.decodeLossy (unfinished earlier) ++ Log.rule :=
      textOf_onto (unfinished earlier) (by decide) rule_single
    rw [text]
    exact FinalState.ofLine?_rule _

theorem splitBytes_encodeLines {ls : List Text} (single : ∀ t ∈ ls, Text.Single t) :
    splitBytes (Log.encodeLines ls) = (ls.map Log.encodeLine, []) := by
  rw [Log.encodeLines, List.flatMap_def]
  refine splitBytes_flatten fun l member => ?_
  obtain ⟨t, inside, rfl⟩ := List.mem_map.mp member
  exact isLine_encodeLine (single t inside)

theorem stateOfLines?_last (earlier : Bytes) (line : IsLine l) {ls : List Text} {last : Text}
    (single : ∀ t ∈ ls ++ [last], Text.Single t) {s : FinalState}
    (marked : FinalState.ofLine? last = some s) :
    leftover (earlier ++ (l ++ Log.encodeLines (ls ++ [last]))) = [] ∧
      stateOfLines? (earlier ++ (l ++ Log.encodeLines (ls ++ [last]))) = some s := by
  have onto := splitBytes_onto earlier line (Log.encodeLines (ls ++ [last]))
  have split := splitBytes_encodeLines single
  simp only [wholeLines, unfinished, split] at onto
  have text : textOf (Log.encodeLine last) = last :=
    textOf_encodeLine (single last (List.mem_append_right _ (List.mem_singleton_self _)))
  constructor
  · simp only [leftover, unfinished, onto]
    rfl
  · rw [stateOfLines?, wholeLines, onto]
    simp [TailReport.lastState?, text, marked]

theorem holds_starts {bytes rest part : Bytes} {first whole : List Text}
    (holds : Log.Holds bytes whole part) (single : ∀ t ∈ first, Text.Single t)
    (starts : bytes = Log.encodeLines first ++ rest) : first <+: whole := by
  have grown : wholeLines (Log.encodeLines first) <+: wholeLines bytes :=
    wholeLines_grown ⟨rest, starts.symm⟩
  have all : wholeLines bytes = whole.map Log.encodeLine := by
    have lines : ∀ l ∈ whole.map Log.encodeLine, IsLine l := by
      intro l member
      obtain ⟨t, inside, rfl⟩ := List.mem_map.mp member
      exact isLine_encodeLine (holds.single t inside)
    have split := splitBytes_lines lines holds.open_ended
    rw [← List.flatMap_def] at split
    rw [holds.bytes_eq, wholeLines]
    exact congrArg Prod.fst split
  have texts {ls : List Text} (single : ∀ t ∈ ls, Text.Single t) :
      (ls.map Log.encodeLine).map textOf = ls := by
    rw [List.map_map]
    exact (List.map_congr_left fun t member => textOf_encodeLine (single t member)).trans
      (List.map_id ls)
  rw [all, wholeLines, splitBytes_encodeLines single] at grown
  have read := grown.map textOf
  rwa [texts single, texts holds.single] at read

end Follow

end BookingRetry
