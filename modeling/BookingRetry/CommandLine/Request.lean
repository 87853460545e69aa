import BookingRetry.CommandLine.Grammar
import BookingRetry.Observer

/-!
What can be asked of the program: to try candidates with a booking command, or to show the end of
a log.
-/
namespace BookingRetry

structure RunRequest where
  candidates : Text
  targets : Option Text := none
  retry : Bool := false
  timeoutMinutes : Nat := 60
  waitSeconds : Nat := 10
  minIntervalMs : Option Nat := none
  logFile : Option Text := none
  config : Option Text := none
  program : Text
  arguments : List Text
  deriving DecidableEq, Repr

structure TailRequest where
  path : Option Text := none
  lines : Nat := defaultTailLines
  follow : Bool := false
  pollMs : Nat := 500
  config : Option Text := none
  deriving DecidableEq, Repr

inductive Request where
  | run (r : RunRequest)
  | tail (r : TailRequest)
  deriving DecidableEq, Repr

namespace CommandLine

def candidatesName : Text := lit "candidates"

def targetsName : Text := lit "targets"

def retryName : Text := lit "retry"

def timeoutName : Text := lit "timeout-minutes"

def waitName : Text := lit "wait-seconds"

def intervalName : Text := lit "min-interval-ms"

def logFileName : Text := lit "log-file"

def configName : Text := lit "config"

def pathName : Text := lit "path"

def linesName : Text := lit "lines"

def followName : Text := lit "follow"

def pollName : Text := lit "poll-ms"

def helpSlot : Slot := ⟨lit "help", some 'h', .help⟩

def versionSlot : Slot := ⟨lit "version", some 'V', .version⟩

def runGrammar : Grammar where
  options :=
    [⟨candidatesName, some 'c', .path⟩, ⟨retryName, none, .flag⟩, ⟨timeoutName, none, .count⟩,
     ⟨waitName, none, .count⟩, ⟨intervalName, none, .count⟩, ⟨logFileName, none, .path⟩,
     ⟨configName, none, .path⟩, helpSlot]
  place := some ⟨targetsName, none, .text⟩
  hasCommand := true

def tailGrammar : Grammar where
  options :=
    [⟨linesName, some 'n', .count⟩, ⟨followName, some 'f', .flag⟩, ⟨pollName, none, .count⟩,
     ⟨configName, none, .path⟩, helpSlot]
  place := some ⟨pathName, none, .path⟩
  hasCommand := false

def runRequest (f : Found) : Except UsageFault RunRequest :=
  match f.text? candidatesName, f.command with
  | some candidates, program :: arguments =>
    .ok
      { candidates
        targets := f.text? targetsName
        retry := f.isOn retryName
        timeoutMinutes := (f.count? timeoutName).getD 60
        waitSeconds := (f.count? waitName).getD 10
        minIntervalMs := f.count? intervalName
        logFile := f.text? logFileName
        config := f.text? configName
        program
        arguments }
  | _, _ => .error .missingRequired

def tailRequest (f : Found) : TailRequest where
  path := f.text? pathName
  lines := (f.count? linesName).getD defaultTailLines
  follow := f.isOn followName
  pollMs := (f.count? pollName).getD 500
  config := f.text? configName

def runWord : Text := lit "run"

def tailWord : Text := lit "tail"

def helpWord : Text := lit "help"

def isSubcommand (w : Text) : Bool := w = runWord || w = tailWord || w = helpWord

def frontGrammar : Grammar where
  options := [helpSlot, versionSlot]
  place := none
  hasCommand := false

def helpFault : List Text → UsageFault
  | [] => .help
  | [w] => if isSubcommand w then .help else .invalidSubcommand
  | _ => .invalidSubcommand

def frontFault (w : Text) : UsageFault :=
  match w with
  | '-' :: _ :: _ =>
    match frontGrammar.word w {} with
    | .error e => e
    | .ok _ => .unknownArgument
  | _ => .invalidSubcommand

def dashedFault : List Text → UsageFault
  | [] => .noSubcommand
  | w :: _ => if isSubcommand w then .unknownArgument else .invalidSubcommand

end CommandLine

namespace Request

open CommandLine

def ofWords : List Text → Except UsageFault Request
  | [] => .error .noSubcommand
  | w :: ws =>
    if w = Grammar.dashes then .error (dashedFault ws)
    else if w = helpWord then .error (helpFault ws)
    else if w = runWord then
      match runGrammar.read ws with
      | .error e => .error e
      | .ok f =>
        match runRequest f with
        | .ok r => .ok (.run r)
        | .error e => .error e
    else if w = tailWord then
      match tailGrammar.read ws with
      | .error e => .error e
      | .ok f => .ok (.tail (tailRequest f))
    else .error (frontFault w)

end Request

end BookingRetry
