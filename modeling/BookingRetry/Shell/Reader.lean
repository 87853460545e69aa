import BookingRetry.Shell.Token

/-!
Reading the tokens of a script as commands. A script is read line by line, so what stands before a
line that cannot be read has been done by then.
-/
namespace BookingRetry.Shell

inductive SyntaxFault where
  | unexpected (line : Nat) (what : Text) (expecting : Option Text)
  | unterminated (line : Nat)
  | badVariable (line : Nat)
  deriving DecidableEq, Repr

namespace SyntaxFault

def line : SyntaxFault → Nat
  | unexpected n _ _ => n
  | unterminated n => n
  | badVariable n => n

def message : SyntaxFault → Text
  | unexpected _ what expecting =>
    lit "Syntax error: " ++ what ++ lit " unexpected" ++
      match expecting with
      | some e => lit " (expecting " ++ e ++ lit ")"
      | none => []
  | unterminated _ => lit "Syntax error: Unterminated quoted string"
  | badVariable _ => lit "Syntax error: Bad for loop variable"

end SyntaxFault

abbrev Reading (α : Type) := Except SyntaxFault (α × List Token)

def inMarks (t : Text) : Text := '"' :: t ++ ['"']

def Operator.shown : Operator → Text
  | lineBreak => lit "newline"
  | semicolon => inMarks [';']
  | doubleSemicolon => inMarks (lit ";;")
  | both => inMarks (lit "&&")
  | either => inMarks (lit "||")
  | pipe => inMarks ['|']
  | background => inMarks ['&']
  | opening => inMarks ['(']
  | closing => inMarks [')']
  | redirect _ => lit "redirection"

def endingWords : List Text :=
  ["then", "else", "elif", "fi", "do", "done", "esac", "\x7d"].map lit

def reservedWords : List Text :=
  endingWords ++ ["if", "while", "until", "for", "case", "\x7b", "!", "in"].map lit

def Token.plain? (t : Token) : Option Text :=
  match t.mark with
  | .word w => plainText? w
  | _ => none

def misplaced (last : Nat) (expecting : Option Text) : List Token → SyntaxFault
  | [] => .unexpected last (lit "end of file") expecting
  | t :: _ =>
    match t.mark with
    | .unterminated => .unterminated t.line
    | .operator o => .unexpected t.line o.shown expecting
    | .stream _ => .unexpected t.line (lit "word") expecting
    | .word w =>
      match plainText? w with
      | some p =>
        if reservedWords.contains p then .unexpected t.line (inMarks p) expecting
        else .unexpected t.line (lit "word") expecting
      | none => .unexpected t.line (lit "word") expecting

def pastBreaks : List Token → List Token
  | [] => []
  | t :: ts => if t.mark = .operator .lineBreak then pastBreaks ts else t :: ts

def wanting (last : Nat) (word : String) (ts : List Token) : Except SyntaxFault (List Token) :=
  match ts with
  | t :: rest =>
    if t.plain? = some (lit word) then .ok rest
    else .error (misplaced last (some (inMarks (lit word))) ts)
  | [] => .error (misplaced last (some (inMarks (lit word))) [])

def startsOperator (o : Operator) : List Token → Bool
  | [] => false
  | t :: _ => t.mark = .operator o

def endsList : List Token → Bool
  | [] => true
  | t :: _ =>
    match t.mark with
    | .operator .closing => true
    | .operator .doubleSemicolon => true
    | .word w =>
      match plainText? w with
      | some p => endingWords.contains p
      | none => false
    | _ => false

def isName : Text → Bool
  | [] => false
  | c :: cs => isNameStart c && cs.all isNameChar

def assignment? (w : Word) : Option (Text × Word) :=
  match w with
  | .plain t :: rest =>
    match t with
    | [] => none
    | c :: cs =>
      let name := c :: cs.takeWhile isNameChar
      match isNameStart c, cs.dropWhile isNameChar with
      | true, '=' :: value =>
        some (name, if value.isEmpty then rest else .plain value :: rest)
      | _, _ => none
  | _ => none

def ownStream : Direction → Nat
  | .input => 0
  | _ => 1

def redirection? (last : Nat) (ts : List Token) :
    Except SyntaxFault (Option (Redirection × List Token)) :=
  let target (stream : Nat) (d : Direction) (rest : List Token) :
      Except SyntaxFault (Option (Redirection × List Token)) :=
    match rest with
    | ⟨_, .word w⟩ :: rest => .ok (some (⟨stream, d, w⟩, rest))
    | ⟨_, .stream n⟩ :: rest => .ok (some (⟨stream, d, [.plain (Numeral.written n)]⟩, rest))
    | rest => .error (misplaced last none rest)
  match ts with
  | ⟨_, .stream n⟩ :: ⟨_, .operator (.redirect d)⟩ :: rest => target n d rest
  | ⟨_, .operator (.redirect d)⟩ :: rest => target (ownStream d) d rest
  | _ => .ok none

def redirections (last : Nat) : Nat → List Token → Reading (List Redirection)
  | 0, ts => .ok ([], ts)
  | room + 1, ts =>
    match redirection? last ts with
    | .error e => .error e
    | .ok none => .ok ([], ts)
    | .ok (some (r, ts)) =>
      match redirections last room ts with
      | .error e => .error e
      | .ok (rs, ts) => .ok (r :: rs, ts)

def simpleParts (last : Nat) :
    Nat → Bool → List Token → Reading (List (Text × Word) × List Word × List Redirection)
  | 0, _, ts => .ok (([], [], []), ts)
  | room + 1, front, ts =>
    match redirection? last ts with
    | .error e => .error e
    | .ok (some (r, ts)) =>
      match simpleParts last room front ts with
      | .error e => .error e
      | .ok ((as, ws, rs), ts) => .ok ((as, ws, r :: rs), ts)
    | .ok none =>
      match ts with
      | ⟨_, .word w⟩ :: rest =>
        match front, assignment? w with
        | true, some a =>
          match simpleParts last room true rest with
          | .error e => .error e
          | .ok ((as, ws, rs), ts) => .ok ((a :: as, ws, rs), ts)
        | _, _ =>
          match simpleParts last room false rest with
          | .error e => .error e
          | .ok ((as, ws, rs), ts) => .ok ((as, w :: ws, rs), ts)
      | ⟨line, .unterminated⟩ :: _ => .error (.unterminated line)
      | _ => .ok (([], [], []), ts)

def simple (last : Nat) (ts : List Token) : Reading Command :=
  let line := match ts with
    | t :: _ => t.line
    | [] => last
  match simpleParts last (ts.length + 1) true ts with
  | .error e => .error e
  | .ok ((as, ws, rs), rest) =>
    if as.isEmpty && ws.isEmpty && rs.isEmpty then .error (misplaced last none rest)
    else .ok (.simple line as ws rs, rest)

def wordsUntilBreak : List Token → List Word × List Token
  | ⟨_, .word w⟩ :: ts =>
    let r := wordsUntilBreak ts
    (w :: r.1, r.2)
  | ts => ([], ts)

def pastSeparator : List Token → List Token
  | ⟨_, .operator .semicolon⟩ :: ts => pastBreaks ts
  | ts => pastBreaks ts

def patterns (last : Nat) : List Token → Reading (List Word)
  | ⟨_, .word w⟩ :: ⟨_, .operator .closing⟩ :: ts => .ok ([w], ts)
  | ⟨_, .word w⟩ :: ⟨_, .operator .pipe⟩ :: ts =>
    match patterns last ts with
    | .error e => .error e
    | .ok (ws, ts) => .ok (w :: ws, ts)
  | ⟨_, .word _⟩ :: ts => .error (misplaced last (some (inMarks [')'])) ts)
  | ts => .error (misplaced last (some (inMarks [')'])) ts)

mutual

/-- A list of commands up to a word or sign that ends it, or up to the end of the line unless the
list may go on over lines. -/
def list (last : Nat) : Nat → Bool → List Token → Reading Command
  | 0, _, ts => .error (misplaced last none ts)
  | _ + 1, true, [] => .ok (.nothing, [])
  | room + 1, overLines, ts =>
    match chain last room ts with
    | .error e => .error e
    | .ok (c, ts) =>
      let c := if startsOperator .background ts then .background c else c
      let more (ts : List Token) : Reading Command :=
        if endsList ts then .ok (c, ts)
        else match list last room overLines ts with
          | .error e => .error e
          | .ok (d, ts) => .ok (.sequence c d, ts)
      match ts with
      | ⟨_, .operator o⟩ :: rest =>
        if o = .semicolon || o = .background then
          if overLines then more (pastBreaks rest)
          else if startsOperator .lineBreak rest then .ok (c, rest)
          else more rest
        else if o = .lineBreak && overLines then more (pastBreaks rest)
        else .ok (c, ts)
      | _ => .ok (c, ts)

def chain (last : Nat) : Nat → List Token → Reading Command
  | 0, ts => .error (misplaced last none ts)
  | room + 1, ts =>
    match pipeline last room ts with
    | .error e => .error e
    | .ok (c, ts) => chainRest last room c ts

def chainRest (last : Nat) : Nat → Command → List Token → Reading Command
  | 0, c, ts => .ok (c, ts)
  | room + 1, c, ts =>
    match ts with
    | ⟨_, .operator .both⟩ :: rest =>
      match pipeline last room (pastBreaks rest) with
      | .error e => .error e
      | .ok (d, ts) => chainRest last room (.andThen c d) ts
    | ⟨_, .operator .either⟩ :: rest =>
      match pipeline last room (pastBreaks rest) with
      | .error e => .error e
      | .ok (d, ts) => chainRest last room (.orElse c d) ts
    | _ => .ok (c, ts)

def pipeline (last : Nat) : Nat → List Token → Reading Command
  | 0, ts => .error (misplaced last none ts)
  | room + 1, ts =>
    match ts with
    | t :: rest =>
      if t.plain? = some ['!'] then
        match piped last room rest with
        | .error e => .error e
        | .ok (c, ts) => .ok (.negated c, ts)
      else piped last room ts
    | [] => piped last room ts

def piped (last : Nat) : Nat → List Token → Reading Command
  | 0, ts => .error (misplaced last none ts)
  | room + 1, ts =>
    match command last room ts with
    | .error e => .error e
    | .ok (c, ts) =>
      match ts with
      | ⟨_, .operator .pipe⟩ :: rest =>
        match piped last room (pastBreaks rest) with
        | .error e => .error e
        | .ok (d, ts) => .ok (.pipe c d, ts)
      | _ => .ok (c, ts)

def command (last : Nat) : Nat → List Token → Reading Command
  | 0, ts => .error (misplaced last none ts)
  | room + 1, ts =>
    let redirected (r : Reading Command) : Reading Command :=
      match r with
      | .error e => .error e
      | .ok (c, ts) =>
        match redirections last (ts.length + 1) ts with
        | .error e => .error e
        | .ok ([], ts) => .ok (c, ts)
        | .ok (rs, ts) => .ok (.redirected c rs, ts)
    match ts with
    | [] => .error (misplaced last none [])
    | ⟨_, .operator .opening⟩ :: rest =>
      redirected (match list last room true (pastBreaks rest) with
        | .error e => .error e
        | .ok (c, ⟨_, .operator .closing⟩ :: ts) => .ok (.apart c, ts)
        | .ok (_, ts) => .error (misplaced last (some (inMarks [')'])) ts))
    | t :: rest =>
      match t.plain?.map String.ofList with
      | some "\x7b" =>
        redirected (match list last room true (pastBreaks rest) with
          | .error e => .error e
          | .ok (c, ts) =>
            match wanting last "\x7d" ts with
            | .error e => .error e
            | .ok ts => .ok (c, ts))
      | some "if" => redirected (condition last room rest)
      | some "while" => redirected (repetition last room true rest)
      | some "until" => redirected (repetition last room false rest)
      | some "for" => redirected (counted last room rest)
      | some "case" => redirected (cases last room rest)
      | some w =>
        if endingWords.contains (lit w) then .error (misplaced last none ts)
        else if isName (lit w) && startsOperator .opening rest then
          definition last room (lit w) (rest.drop 1)
        else simple last ts
      | none => simple last ts

def definition (last : Nat) : Nat → Text → List Token → Reading Command
  | 0, _, ts => .error (misplaced last none ts)
  | room + 1, name, ts =>
    if startsOperator .closing ts then
      match command last room (pastBreaks (ts.drop 1)) with
      | .error e => .error e
      | .ok (c, ts) => .ok (.define name c, ts)
    else .error (misplaced last (some (inMarks [')'])) ts)

def condition (last : Nat) : Nat → List Token → Reading Command
  | 0, ts => .error (misplaced last none ts)
  | room + 1, ts =>
    match list last room true (pastBreaks ts) with
    | .error e => .error e
    | .ok (c, ts) =>
      match wanting last "then" ts with
      | .error e => .error e
      | .ok ts =>
        match list last room true (pastBreaks ts) with
        | .error e => .error e
        | .ok (yes, ts) =>
          match ts.head?.bind Token.plain? |>.map String.ofList with
          | some "elif" =>
            match condition last room (ts.drop 1) with
            | .error e => .error e
            | .ok (no, ts) => .ok (.choice c yes no, ts)
          | some "else" =>
            match list last room true (pastBreaks (ts.drop 1)) with
            | .error e => .error e
            | .ok (no, ts) =>
              match wanting last "fi" ts with
              | .error e => .error e
              | .ok ts => .ok (.choice c yes no, ts)
          | _ =>
            match wanting last "fi" ts with
            | .error e => .error e
            | .ok ts => .ok (.choice c yes .nothing, ts)

def body (last : Nat) : Nat → List Token → Reading Command
  | 0, ts => .error (misplaced last none ts)
  | room + 1, ts =>
    match wanting last "do" ts with
    | .error e => .error e
    | .ok ts =>
      match list last room true (pastBreaks ts) with
      | .error e => .error e
      | .ok (c, ts) =>
        match wanting last "done" ts with
        | .error e => .error e
        | .ok ts => .ok (c, ts)

def repetition (last : Nat) : Nat → Bool → List Token → Reading Command
  | 0, _, ts => .error (misplaced last none ts)
  | room + 1, succeeds, ts =>
    match list last room true (pastBreaks ts) with
    | .error e => .error e
    | .ok (c, ts) =>
      match body last room ts with
      | .error e => .error e
      | .ok (b, ts) => .ok (.loop succeeds c b 0, ts)

def counted (last : Nat) : Nat → List Token → Reading Command
  | 0, ts => .error (misplaced last none ts)
  | room + 1, ts =>
    match ts with
    | ⟨_, .word w⟩ :: rest =>
      match plainText? w with
      | none => .error (.badVariable last)
      | some name =>
        if !isName name then .error (.badVariable last) else
        let closed (words : Option (List Word)) (ts : List Token) : Reading Command :=
          match body last room (pastSeparator ts) with
          | .error e => .error e
          | .ok (b, ts) => .ok (.each name words b, ts)
        match (pastBreaks rest).head?.bind Token.plain? |>.map String.ofList with
        | some "in" =>
          let r := wordsUntilBreak ((pastBreaks rest).drop 1)
          if startsOperator .semicolon r.2 || startsOperator .lineBreak r.2 then
            closed (some r.1) r.2
          else .error (misplaced last none r.2)
        | _ => closed none rest
    | _ => .error (.badVariable last)

def cases (last : Nat) : Nat → List Token → Reading Command
  | 0, ts => .error (misplaced last none ts)
  | room + 1, ts =>
    match ts with
    | ⟨_, .word w⟩ :: rest =>
      match wanting last "in" (pastBreaks rest) with
      | .error e => .error e
      | .ok ts =>
        match arms last room (pastBreaks ts) with
        | .error e => .error e
        | .ok (as, ts) => .ok (.select w as, ts)
    | _ => .error (misplaced last (some (lit "word")) ts)

def arms (last : Nat) : Nat → List Token → Reading (List (List Word × Command))
  | 0, ts => .error (misplaced last none ts)
  | room + 1, ts =>
    match wanting last "esac" ts with
    | .ok ts => .ok ([], ts)
    | .error _ =>
      let ts := match ts with
        | ⟨_, .operator .opening⟩ :: rest => rest
        | _ => ts
      match patterns last ts with
      | .error e => .error e
      | .ok (ps, ts) =>
        let ts := pastBreaks ts
        let done : Reading Command :=
          if endsList ts then .ok (.nothing, ts) else list last room true ts
        match done with
        | .error e => .error e
        | .ok (c, ts) =>
          match ts with
          | ⟨_, .operator .doubleSemicolon⟩ :: rest =>
            match arms last room (pastBreaks rest) with
            | .error e => .error e
            | .ok (as, ts) => .ok ((ps, c) :: as, ts)
          | _ =>
            match wanting last "esac" ts with
            | .error _ => .error (misplaced last (some (inMarks (lit ";;"))) ts)
            | .ok ts => .ok ([(ps, c)], ts)

end

def patience (ts : List Token) : Nat := 12 * ts.length + 12

/-- The commands of the first line that has any, and what follows. -/
def readLine (last : Nat) (ts : List Token) : Reading (Option Command) :=
  match pastBreaks ts with
  | [] => .ok (none, [])
  | ts =>
    match list last (patience ts) false ts with
    | .error e => .error e
    | .ok (c, []) => .ok (some c, [])
    | .ok (c, ⟨_, .operator .lineBreak⟩ :: rest) => .ok (some c, rest)
    | .ok (_, ts) => .error (misplaced last none ts)

end BookingRetry.Shell
