import BookingRetry.Shell.Condition
import BookingRetry.Shell.Expansion
import BookingRetry.Shell.Format

/-!
Doing commands. A command is done in a state and gives the next one, and says how the commands
after it go on. The shell knows some commands itself; the others are programs, and what comes of
starting one is told by a function.
-/
namespace BookingRetry.Shell

structure Site where
  host : Host
  find : List (Text × Text) → Text → Except FileFault Text
  start : Program.Call → Except FileFault Program.Finish

def nullDevice : Text := lit "/dev/null"

abbrev Done := Flow × State

def ended (s : State) (status : Nat) : Done := (.goesOn, s.withStatus status)

def fatal (outlets : Outlets) (message : Text) (s : State) : Done :=
  (.exits, (s.complain outlets message).withStatus 2)

def statusOf? (t : Text) : Option Nat := (Numeral.readDigits? t).map fun n => n % 256

def loopCount (arguments : List Text) : Nat :=
  match arguments with
  | t :: _ => max 1 ((Numeral.readDigits? t).getD 1)
  | [] => 1

def inputLine : Bytes → Bytes × Bytes × Bool
  | [] => ([], [], false)
  | b :: bs =>
    if b = 10 then ([], bs, true)
    else
      let r := inputLine bs
      (b :: r.1, r.2)

def assignWords : List Text → Text → State → State
  | [], _, s => s
  | [name], t, s =>
    let t := skipBlanks t
    s.assign name (t.reverse.dropWhile isSplitting).reverse
  | name :: names, t, s =>
    let t := skipBlanks t
    assignWords names (t.dropWhile fun c => !isSplitting c)
      (s.assign name (t.takeWhile fun c => !isSplitting c))

def setOptions (on : Bool) (letters : Text) (s : State) : State :=
  letters.foldl (fun s c =>
    if c = 'e' then { s with stopsOnFailure := on }
    else if c = 'u' then { s with needsValues := on }
    else s) s

def setArguments : List Text → State → State
  | [], s => s
  | w :: ws, s =>
    match w with
    | ['-', '-'] => { s with arguments := ws }
    | '-' :: letters => setArguments ws (setOptions true letters s)
    | '+' :: letters => setArguments ws (setOptions false letters s)
    | _ => { s with arguments := w :: ws }

def definition? (w : Text) : Option (Text × Text) :=
  match w.dropWhile fun c => c ≠ '=' with
  | _ :: value => some (w.takeWhile fun c => c ≠ '=', value)
  | [] => none

def exportWord (s : State) (w : Text) : State :=
  match definition? w with
  | some (name, value) => { s.assign name value with exported := name :: s.exported }
  | none => { s with exported := w :: s.exported }

def harmless : List Nat := [0, 17, 18, 23, 28]

def signalOf? (w : Text) : Option Nat :=
  match Numeral.readDigits? w with
  | some n => some n
  | none => signalNumber? ((Text.after? (lit "SIG") w).getD w)

def send (signal : Nat) (target : Text) (s : State) : Done :=
  if target = ownNumber then
    if harmless.contains signal then ended s 0 else (.killed signal, s)
  else if target = parentNumber then
    ended { s with interrupts := s.interrupts || signal = 2 } 0
  else ended s 1

def kill (arguments : List Text) (s : State) : Done :=
  match arguments with
  | ['-', 's'] :: name :: target :: _ =>
    match signalOf? name with
    | some n => send n target s
    | none => ended s 2
  | ('-' :: name) :: target :: _ =>
    match signalOf? name with
    | some n => send n target s
    | none => ended s 2
  | target :: _ => send 15 target s
  | [] => ended s 2

def dashes : Text := ['-', '-']

def builtin? (site : Site) (outlets : Outlets) (name : Text) (arguments : List Text) (s : State) :
    Option Done :=
  let failing (message : Text) : Done := ended (s.complain outlets (name ++ lit ": " ++ message)) 2
  match String.ofList name with
  | ":" => some (ended s 0)
  | "true" => some (ended s 0)
  | "false" => some (ended s 1)
  | "echo" => some (ended (s.write outlets.output (echoed arguments)) 0)
  | "printf" =>
    match (if arguments.head? = some dashes then arguments.drop 1 else arguments) with
    | [] => some (failing (lit "usage: printf format [arg ...]"))
    | format :: rest =>
      let p := printed format rest
      let s := s.write outlets.output p.bytes
      let s := p.complaints.foldl (fun s m => s.complain outlets (name ++ lit ": " ++ m)) s
      some (ended s (if p.complaints.isEmpty then 0 else 1))
  | "test" => some (asked failing s (condition? site.host arguments))
  | "[" =>
    if arguments.getLast? = some [']'] then
      some (asked failing s (condition? site.host arguments.dropLast))
    else some (failing (lit "missing ]"))
  | "exit" =>
    match arguments with
    | [] => some (.exits, s)
    | t :: _ =>
      match statusOf? t with
      | some n => some (.exits, s.withStatus n)
      | none => some (.exits, (s.complain outlets (lit "exit: Illegal number: " ++ t)).withStatus 2)
  | "return" =>
    some (if s.inFunction then .returns else .exits, match arguments.head?.bind statusOf? with
      | some n => s.withStatus n
      | none => s)
  | "break" =>
    some (if s.loops = 0 then .goesOn else .breaks (loopCount arguments), s.withStatus 0)
  | "continue" =>
    some (if s.loops = 0 then .goesOn else .continues (loopCount arguments), s.withStatus 0)
  | "shift" =>
    let n := ((arguments.head?).bind Numeral.readDigits?).getD 1
    if n ≤ s.arguments.length then some (ended { s with arguments := s.arguments.drop n } 0)
    else some (.exits, (s.complain outlets (lit "shift: can't shift that many")).withStatus 2)
  | "set" => some (ended (setArguments arguments s) 0)
  | "export" => some (ended (arguments.foldl exportWord s) 0)
  | "unset" =>
    some (ended (arguments.foldl (fun s w =>
      { s with
        store := s.store.filter fun v => v.1 ≠ w
        exported := s.exported.filter fun n => n ≠ w }) s) 0)
  | "read" =>
    let names := arguments.filter fun w => w.head? ≠ some '-'
    if names.isEmpty then some (failing (lit "arg count"))
    else
      let r := inputLine s.input
      let s := assignWords names (Utf8.decodeLossy r.1) { s with input := r.2.1 }
      some (ended s (if r.2.2 then 0 else 1))
  | "kill" => some (kill arguments s)
  | "wait" => some (ended s 0)
  | "umask" => some (ended s 0)
  | "trap" => some (ended s 0)
  | "pwd" =>
    some (ended (s.write outlets.output (Utf8.encode (Path.ofPlace site.host.cwd ++ ['\n']))) 0)
  | _ => none
where
  asked (failing : Text → Done) (s : State) : Except ConditionFault Bool → Done
    | .ok b => ended s (if b then 0 else 1)
    | .error f => failing f.message

def keepsAssignments (name : Text) : Bool :=
  ([":", "export", "set", "unset", "shift", "exit"].map lit).contains name

def State.restored (s before : State) (own : List (Text × Text)) : State :=
  own.foldl (fun s v =>
    match before.stored? v.1 with
    | some old => s.assign v.1 old
    | none => { s with store := s.store.filter fun x => x.1 ≠ v.1 }) s

def startProgram (site : Site) (outlets : Outlets) (name : Text) (arguments : List Text)
    (own : List (Text × Text)) (s : State) : Done :=
  let environment := own.reverse ++ s.environment.filter fun v => !own.any fun o => o.1 = v.1
  let failed (f : FileFault) : Done :=
    match f with
    | .permissionDenied => ended (s.complain outlets (name ++ lit ": Permission denied")) 126
    | .execFormat => ended (s.complain outlets (name ++ lit ": Exec format error")) 126
    | _ => ended (s.complain outlets (name ++ lit ": not found")) 127
  match site.find environment name with
  | .error f => failed f
  | .ok path =>
    match site.start ⟨path, name, arguments, environment, s.input⟩ with
    | .error f => failed f
    | .ok r =>
      let s := (s.write outlets.output r.output).write outlets.complaints r.complaints
      ended { s with interrupts := s.interrupts || r.interrupts } r.ending.status

def redirect (site : Site) (direction : Direction) (stream : Nat) (target : Text)
    (outlets : Outlets) (input : Bytes) : Except Text (Outlets × Bytes) :=
  let lead (p : Outlet) : Except Text (Outlets × Bytes) :=
    if stream = 1 then .ok ({ outlets with output := p }, input)
    else if stream = 2 then .ok ({ outlets with complaints := p }, input)
    else .ok (outlets, input)
  match direction with
  | .input =>
    if target = nullDevice then .ok (outlets, [])
    else match site.host.read target with
      | .ok bs => .ok (outlets, bs)
      | .error _ => .error (lit "cannot open " ++ target ++ lit ": No such file")
  | .output => lead .nowhere
  | .addition => lead .nowhere
  | .same =>
    if target = ['1'] then lead outlets.output
    else if target = ['2'] then lead outlets.complaints
    else if target = ['-'] then lead .nowhere
    else if target = ['0'] then .ok (outlets, input)
    else .error (target ++ lit ": Bad file descriptor")

def readsElsewhere (rs : List Redirection) : Bool := rs.any fun r => r.direction = .input

def redirectAll (site : Site) (capture : Capture) :
    List Redirection → Outlets → Bytes → State → Except Text (Outlets × Bytes) × State
  | [], outlets, input, s => (.ok (outlets, input), s)
  | r :: rs, outlets, input, s =>
    match oneText capture r.target s with
    | (.error e, s) => (.error e, s)
    | (.ok target, s) =>
      match redirect site r.direction r.stream target outlets input with
      | .error e => (.error e, s)
      | .ok (outlets, input) => redirectAll site capture rs outlets input s

def assignAll (capture : Capture) : List (Text × Word) → State → Expanding (List (Text × Text))
  | [], s => (.ok [], s)
  | (name, w) :: rest, s =>
    match oneText capture w s with
    | (.error e, s) => (.error e, s)
    | (.ok value, s) =>
      match assignAll capture rest (s.assign name value) with
      | (.error e, s) => (.error e, s)
      | (.ok vs, s) => (.ok ((name, value) :: vs), s)

def armFor (capture : Capture) (subject : Text) :
    List (List Word × Command) → State → Expanding Command
  | [], s => (.ok .nothing, s)
  | (ws, c) :: arms, s =>
    match anyFits ws s with
    | (.error e, s) => (.error e, s)
    | (.ok true, s) => (.ok c, s)
    | (.ok false, s) => armFor capture subject arms s
where
  anyFits : List Word → State → Expanding Bool
    | [], s => (.ok false, s)
    | w :: ws, s =>
      match onePattern capture w s with
      | (.error e, s) => (.error e, s)
      | (.ok p, s) => if Glob.fits p subject then (.ok true, s) else anyFits ws s

def inLoop (s : State) (body : State → Done) : Done :=
  let r := body { s with loops := s.loops + 1 }
  (r.1, { r.2 with loops := s.loops })

def inFunction (s : State) (arguments : List Text) (body : State → Done) : Done :=
  let r := body { s with arguments, inFunction := true, loops := 0 }
  (if r.1 = .returns then .goesOn else r.1,
    { r.2 with arguments := s.arguments, inFunction := s.inFunction, loops := s.loops })

def afterBody : Flow → Bool × Flow
  | .goesOn => (true, .goesOn)
  | .breaks n => (false, if n ≤ 1 then .goesOn else .breaks (n - 1))
  | .continues n => if n ≤ 1 then (true, .goesOn) else (false, .continues (n - 1))
  | f => (false, f)

mutual

/-- Does a command. Where a failure is looked at, `watched`, it does not end the shell. -/
def run (site : Site) : Nat → Outlets → Bool → Command → State → Done
  | 0, _, _, _, s => (.exhausted, s)
  | room + 1, outlets, watched, c, s =>
    let capture : Capture := fun script s =>
      let outlet := s.streams.length
      let r := runScript site room { outlets with output := .stream outlet } watched script
        { s with streams := s.streams ++ [[]] }
      (capturedText (r.2.streams[outlet]?.getD []).reverse,
        { s.backFrom { r.2 with streams := r.2.streams.take outlet } with
          status := s.status, captured := r.2.status })
    let judged (o : Done) : Done :=
      if o.1 = .goesOn && o.2.status ≠ 0 && o.2.stopsOnFailure && !watched then (.exits, o.2) else o
    match c with
    | .nothing => ended s 0
    | .simple line assignments words redirections =>
      let s := { s with line, captured := 0 }
      match fields capture words s with
      | (.error e, s) => fatal outlets e s
      | (.ok texts, s) =>
        let input := s.input
        match redirectAll site capture redirections outlets s.input s with
        | (.error e, s) =>
          judged (ended (s.complain outlets e) (if texts.isEmpty then 1 else 2))
        | (.ok (inner, given), s) =>
          let before := s
          match assignAll capture assignments s with
          | (.error e, s) => fatal outlets e s
          | (.ok own, s) =>
            match texts with
            | [] => judged (ended s s.captured)
            | name :: arguments =>
              let s :=
                { before with input := given, interrupts := s.interrupts, streams := s.streams }
              let back (o : Done) : Done :=
                if readsElsewhere redirections then (o.1, { o.2 with input }) else o
              let direct := own.foldl (fun (s : State) (v : Text × Text) => s.assign v.1 v.2) s
              match s.functions.find? fun f => f.1 = name with
              | some (_, body) =>
                judged (back (inFunction direct arguments (run site room inner watched body)))
              | none =>
              match builtin? site inner name arguments direct with
              | some (f, s') =>
                judged (back (f, if keepsAssignments name then s' else s'.restored before own))
              | none =>
                if name = lit "eval" then
                  back (runScript site room inner watched (Text.joined [' '] arguments) direct)
                else if name = lit "." then
                  match arguments with
                  | [] => fatal outlets (lit ".: filename argument required") s
                  | path :: _ =>
                    match site.host.read path with
                    | .ok bs =>
                      back (runScript site room inner watched (Utf8.decodeLossy bs) direct)
                    | .error _ =>
                      fatal outlets (lit ".: cannot open " ++ path ++ lit ": No such file") s
                else if name = lit "exec" || name = lit "command" then
                  match arguments with
                  | [] => back (ended s 0)
                  | program :: rest =>
                    let o := match builtin? site inner program rest direct with
                      | some o => o
                      | none => startProgram site inner program rest own s
                    back (if name = lit "exec" && o.1 = .goesOn then (.exits, o.2) else judged o)
                else judged (back (startProgram site inner name arguments own s))
    | .redirected body redirections =>
      match redirectAll site capture redirections outlets s.input s with
      | (.error e, s) => judged (ended (s.complain outlets e) 2)
      | (.ok (inner, given), s) =>
        let r := run site room inner watched body { s with input := given }
        if readsElsewhere redirections then (r.1, { r.2 with input := s.input }) else r
    | .sequence first second =>
      match run site room outlets watched first s with
      | (.goesOn, s) => run site room outlets watched second s
      | halted => halted
    | .andThen first second =>
      match run site room outlets true first s with
      | (.goesOn, s) =>
        if s.status = 0 then run site room outlets watched second s else (.goesOn, s)
      | halted => halted
    | .orElse first second =>
      match run site room outlets true first s with
      | (.goesOn, s) =>
        if s.status = 0 then (.goesOn, s) else run site room outlets watched second s
      | halted => halted
    | .negated body =>
      match run site room outlets true body s with
      | (.goesOn, s) => ended s (if s.status = 0 then 1 else 0)
      | halted => halted
    | .pipe first second =>
      let outlet := s.streams.length
      let left := run site room { outlets with output := .stream outlet } true first
        { s with streams := s.streams ++ [[]] }
      let s' := s.backFrom { left.2 with streams := left.2.streams.take outlet }
      match left.1 with
      | .killed n => (.killed n, s')
      | .exhausted => (.exhausted, s')
      | _ =>
        let right := run site room outlets true second
          { s' with input := (left.2.streams[outlet]?.getD []).reverse }
        match right.1 with
        | .killed n => (.killed n, s'.backFrom { right.2 with input := s'.input })
        | .exhausted => right
        | _ => judged (.goesOn, s'.backFrom { right.2 with input := s'.input })
    | .choice condition yes no =>
      match run site room outlets true condition s with
      | (.goesOn, s) => run site room outlets watched (if s.status = 0 then yes else no) s
      | halted => halted
    | .loop succeeds condition body status =>
      match run site room outlets true condition s with
      | (.goesOn, s') =>
        if (s'.status = 0) = succeeds then
          let r := inLoop s' (run site room outlets watched body)
          let next := afterBody r.1
          if next.1 then
            run site room outlets watched (.loop succeeds condition body r.2.status) r.2
          else (next.2, r.2)
        else ended s' status
      | (f, s) =>
        let next := afterBody f
        if next.1 then run site room outlets watched (.loop succeeds condition body status) s
        else (next.2, s)
    | .each name words body =>
      match words with
      | none => run site room outlets watched (.turns name s.arguments body) s
      | some ws =>
        match fields capture ws s with
        | (.error e, s) => fatal outlets e s
        | (.ok values, s) => run site room outlets watched (.turns name values body) s
    | .turns name values body =>
      match values with
      | [] => ended s 0
      | v :: vs =>
        let r := inLoop (s.assign name v) (run site room outlets watched body)
        let next := afterBody r.1
        if next.1 then
          if vs.isEmpty then (.goesOn, r.2)
          else run site room outlets watched (.turns name vs body) r.2
        else (next.2, r.2)
    | .select subject arms =>
      match oneText capture subject s with
      | (.error e, s) => fatal outlets e s
      | (.ok t, s) =>
        match armFor capture t arms s with
        | (.error e, s) => fatal outlets e s
        | (.ok c, s) => run site room outlets watched c s
    | .background body =>
      let r := run site room outlets true body { s with input := [] }
      ended (s.backFrom { r.2 with input := s.input }) 0
    | .define name body =>
      ended { s with functions := (name, body) :: s.functions } 0
    | .apart body =>
      match run site room outlets watched body s with
      | (.killed n, inner) => (.killed n, s.backFrom inner)
      | (.exhausted, inner) => (.exhausted, inner)
      | (_, inner) => judged (.goesOn, s.backFrom inner)

def runScript (site : Site) : Nat → Outlets → Bool → Text → State → Done
  | 0, _, _, _, s => (.exhausted, s)
  | room + 1, outlets, watched, t, s =>
    runLines site room outlets watched (lineBreaks t + 1) (tokens t) s

def runLines (site : Site) : Nat → Outlets → Bool → Nat → List Token → State → Done
  | 0, _, _, _, _, s => (.exhausted, s)
  | room + 1, outlets, watched, last, ts, s =>
    match readLine last ts with
    | .error e => fatal outlets e.message { s with line := e.line }
    | .ok (none, _) => (.goesOn, s)
    | .ok (some c, rest) =>
      match run site room outlets watched c s with
      | (.goesOn, s) => runLines site room outlets watched last rest s
      | halted => halted

end

def patienceOfRun : Nat := 20000

def endingOf : Done → Ending
  | (.killed n, _) => .signal n
  | (_, s) => .code s.status

end BookingRetry.Shell
