import BookingRetry.Proofs.Outcome

/-!
What can be learned from the lines of a stanza. The lines of the program stand around the text that
the stanza tells of, and the lines of that text stand there as they are. A reader who looks for the
lines of the program by their first words is misled exactly if a later line of the text looks like
one of them.
-/
namespace BookingRetry.Outcome

def vendorText : Outcome → Text
  | success _ detail => detail
  | fatalInput _ reason => reason
  | _ => []

def foreword : Outcome → Text
  | success .. => lit "reservation: "
  | fatalInput .. => lit "reason: "
  | o => o.finding

def onOneLine : Outcome → Outcome
  | success n detail => success n (Text.folded detail)
  | fatalInput n reason => fatalInput n (Text.folded reason)
  | o => o

def stateWord : Text := lit "outcome: "

def attemptsWord : Text := lit "attempts: "

def exitWord : Text := lit "exit: "

/-- A line that looks like one of the program. -/
def LooksOwn (line : Text) : Prop :=
  line = stanzaRule ∨ stateWord <+: line ∨ attemptsWord <+: line ∨ exitWord <+: line

/-- One state, one count and one exit code can be read from the lines, those of the outcome, and
rules stand at the first and at the last line only. -/
structure ReadFrom (o : Outcome) (lines : List Text) : Prop where
  state : lines.filter stateWord.isPrefixOf = [stateWord ++ o.stateName]
  attempts : lines.filter attemptsWord.isPrefixOf = [attemptsWord ++ Numeral.written o.attempts]
  exit : lines.filter exitWord.isPrefixOf = [exitWord ++ Numeral.written o.exitCode]
  rules : lines.filter (fun line => line = stanzaRule) = [stanzaRule, stanzaRule]
  first : lines.head? = some stanzaRule
  last : lines.getLast? = some stanzaRule

theorem finding_eq (o : Outcome) : o.finding = o.foreword ++ o.vendorText := by
  cases o <;> simp [finding, foreword, vendorText]

theorem foreword_plain (o : Outcome) : '\n' ∉ o.foreword := by
  cases o <;> simp [foreword, finding, lit]

theorem single_rule : Text.Single stanzaRule := ⟨by decide, by decide⟩

theorem single_saying {word said : Text} (unbroken : '\n' ∉ word) (some : said ≠ [])
    (plain : '\n' ∉ said ∧ '\r' ∉ said) : Text.Single (word ++ said) := by
  constructor
  · simp [unbroken, plain.1]
  · intro last
    rw [Text.last_of_append _ some] at last
    exact plain.2 (List.mem_of_getLast? last)

theorem single_number (word : Text) (unbroken : '\n' ∉ word) (n : Nat) :
    Text.Single (word ++ Numeral.written n) := by
  apply single_saying unbroken (Numeral.written_digits n).1
  exact ⟨Numeral.not_mem_written rfl n, Numeral.not_mem_written rfl n⟩

theorem single_state (o : Outcome) : Text.Single (stateWord ++ o.stateName) := by
  obtain ⟨named, letters⟩ := o.stateName_letters
  apply single_saying (by decide) named
  exact ⟨Text.not_mem_of_all letters rfl, Text.not_mem_of_all letters rfl⟩

theorem lines_stanza (o : Outcome) :
    Text.lines o.stanza =
      [stanzaRule, stateWord ++ o.stateName, attemptsWord ++ Numeral.written o.attempts] ++
        Text.lines (o.finding ++ ['\n']) ++
        [exitWord ++ Numeral.written o.exitCode, stanzaRule] := by
  have parts : o.stanza =
      stanzaRule ++ '\n' :: (stateWord ++ o.stateName ++ '\n' ::
        (attemptsWord ++ Numeral.written o.attempts ++ '\n' :: (o.finding ++ '\n' ::
          (exitWord ++ Numeral.written o.exitCode ++ '\n' :: stanzaRule)))) := by
    simp [stanza, stanzaLines, Text.joined, stateWord, attemptsWord, exitWord]
  have counted := single_number attemptsWord (by decide) o.attempts
  have exited := single_number exitWord (by decide) o.exitCode
  rw [parts, single_rule.lines, o.single_state.lines, counted.lines, Text.lines_behind,
    exited.lines]
  rfl

theorem LooksOwn.head {line : Text} (own : LooksOwn line) :
    ∃ c ∈ ['-', 'o', 'a', 'e'], line.head? = some c := by
  obtain rfl | ⟨rest, rfl⟩ | ⟨rest, rfl⟩ | ⟨rest, rfl⟩ := own
  · exact ⟨'-', by decide, rfl⟩
  · exact ⟨'o', by decide, rfl⟩
  · exact ⟨'a', by decide, rfl⟩
  · exact ⟨'e', by decide, rfl⟩

theorem lines_finding (o : Outcome) :
    ∃ line later, Text.lines (o.finding ++ ['\n']) = line :: later ∧ ¬ LooksOwn line ∧
      later = (Text.lines (o.vendorText ++ ['\n'])).tail := by
  have tail : (Text.lines (o.finding ++ ['\n'])).tail =
      (Text.lines (o.vendorText ++ ['\n'])).tail := by
    rw [finding_eq, Text.tail_lines o.foreword_plain]
  have worded : ∃ c rest, o.finding = [c] ++ rest ∧ Text.isBlankChar c = false ∧
      c ∉ ['-', 'o', 'a', 'e'] := by
    cases o <;> exact ⟨_, _, rfl, by decide, by decide⟩
  obtain ⟨c, rest, starts, visible, other⟩ := worded
  obtain ⟨more, later, whole⟩ := (Text.firm_singleton visible).lines (rest ++ ['\n'])
  rw [← List.append_assoc, ← starts] at whole
  refine ⟨[c] ++ more, later, whole, ?_, by rw [← tail, whole]; rfl⟩
  intro own
  obtain ⟨d, listed, head⟩ := own.head
  exact other (Option.some.inj head ▸ listed)

theorem filter_around {p : Text → Bool} {front inner back own : List Text}
    (around : front.filter p ++ back.filter p = own) :
    (front ++ inner ++ back).filter p = own ↔ ∀ l ∈ inner, p l = false := by
  have none_iff : inner.filter p = [] ↔ ∀ l ∈ inner, p l = false := by
    simp [List.filter_eq_nil_iff]
  rw [List.filter_append, List.filter_append, ← none_iff]
  constructor
  · intro all
    have counted := congrArg List.length (all.trans around.symm)
    simp only [List.length_append] at counted
    exact List.eq_nil_of_length_eq_zero (by omega)
  · intro none
    rw [none, List.append_nil, around]

theorem readFrom_around {o : Outcome} {inner : List Text} :
    o.ReadFrom ([stanzaRule, stateWord ++ o.stateName,
        attemptsWord ++ Numeral.written o.attempts] ++
      inner ++ [exitWord ++ Numeral.written o.exitCode, stanzaRule]) ↔
      ∀ l ∈ inner, ¬ LooksOwn l := by
  have looks (l : Text) : ¬ LooksOwn l ↔ decide (l = stanzaRule) = false ∧
      stateWord.isPrefixOf l = false ∧ attemptsWord.isPrefixOf l = false ∧
      exitWord.isPrefixOf l = false := by
    simp [LooksOwn, ← List.isPrefixOf_iff_prefix]
  simp only [looks]
  constructor
  · rintro ⟨state, attempts, exit, rules, -, -⟩ l member
    exact ⟨(filter_around rfl).mp rules l member, (filter_around rfl).mp state l member,
      (filter_around rfl).mp attempts l member, (filter_around rfl).mp exit l member⟩
  · intro plain
    constructor
    · exact (filter_around rfl).mpr fun l member => (plain l member).2.1
    · exact (filter_around rfl).mpr fun l member => (plain l member).2.2.1
    · exact (filter_around rfl).mpr fun l member => (plain l member).2.2.2
    · exact (filter_around rfl).mpr fun l member => (plain l member).1
    · rfl
    · rw [List.getLast?_append]
      rfl

theorem readFrom_stanza (o : Outcome) :
    o.ReadFrom (Text.lines o.stanza) ↔
      ∀ line ∈ (Text.lines (o.vendorText ++ ['\n'])).tail, ¬ LooksOwn line := by
  obtain ⟨line, later, whole, own, rest⟩ := o.lines_finding
  rw [lines_stanza, readFrom_around, whole, ← rest]
  simp [own]

theorem vendorText_onOneLine (o : Outcome) : Text.Single o.onOneLine.vendorText := by
  have nothing : Text.Single [] := ⟨by decide, by decide⟩
  cases o with
  | success n detail => exact Text.folded_single detail
  | fatalInput n reason => exact Text.folded_single reason
  | timeout n => exact nothing
  | interrupted n => exact nothing
  | exhausted n => exact nothing

/-- The lines of the program stand around those of the text. The stanza is understood iff no later
line of the text looks like one of the program, and so it is if the text stands on one line. -/
theorem stanza_understood_iff (o : Outcome) :
    Text.lines o.stanza =
      [stanzaRule, stateWord ++ o.stateName, attemptsWord ++ Numeral.written o.attempts] ++
        Text.lines (o.finding ++ ['\n']) ++
        [exitWord ++ Numeral.written o.exitCode, stanzaRule] ∧
    (o.ReadFrom (Text.lines o.stanza) ↔
      ∀ line ∈ (Text.lines (o.vendorText ++ ['\n'])).tail, ¬ LooksOwn line) ∧
    o.onOneLine.ReadFrom (Text.lines o.onOneLine.stanza) := by
  refine ⟨lines_stanza o, readFrom_stanza o, (readFrom_stanza o.onOneLine).mpr ?_⟩
  have whole := o.vendorText_onOneLine.lines []
  rw [whole]
  exact nofun

theorem forged_exit_read :
    ¬ (fatalInput 1 (lit "unknown train\nexit: 0")).ReadFrom
      (Text.lines (fatalInput 1 (lit "unknown train\nexit: 0")).stanza) := by
  intro understood
  have exits : (Text.lines (fatalInput 1 (lit "unknown train\nexit: 0")).stanza).filter
      exitWord.isPrefixOf = [lit "exit: 0", lit "exit: 2"] := by
    decide +kernel
  have one := understood.exit
  rw [exits] at one
  exact absurd (congrArg List.length one) (by decide)

end BookingRetry.Outcome
