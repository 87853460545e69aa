import BookingRetry.CommandLine.Request
import BookingRetry.Session.Basic

/-!
What the program says about its own use: help, its version, and what is wrong with a command line.
-/
namespace BookingRetry.CommandLine

def versionLine : String := "seatclaim 0.0.0"

def frontHelp : List String :=
  ["Deadline-bounded, rate-limited seat booker", "", "Usage: seatclaim <COMMAND>", "", "Commands:",
   "  run   Try candidates until one is reserved, the deadline passes, or a fatal error occurs",
   "  tail  Show the end of a progress log and whether the run has finished",
   "  help  Print this message or the help of the given subcommand(s)", "", "Options:",
   "  -h, --help     Print help", "  -V, --version  Print version"]

def runHelp : List String :=
  ["Try candidates until one is reserved, the deadline passes, or a fatal error occurs", "",
   "Usage: seatclaim run [OPTIONS] --candidates <FILE> [TARGETS] -- <COMMAND>...", "", "Arguments:",
   "  [TARGETS]     Comma-separated 1-based positions to try, in order (default: all)",
   "  <COMMAND>...  Reservation command, run once per attempt", "", "Options:",
   "  -c, --candidates <FILE>    Candidates file written by the search step (JSON)",
   "      --retry                Keep cycling until the deadline instead of making a single pass",
   "      --timeout-minutes <N>  Wall-clock budget in minutes (only with --retry) [default: 60]",
   "      --wait-seconds <K>     Sleep between a failed attempt and the next one [default: 10]",
   "      --min-interval-ms <M>  Minimum spacing between vendor calls (overrides config)",
   "      --log-file <PATH>      Write the progress log here instead of a timestamped file in the data directory",
   "      --config <PATH>        Configuration file (default: search the standard locations)",
   "  -h, --help                 Print help"]

def tailHelp : List String :=
  ["Show the end of a progress log and whether the run has finished", "",
   "Usage: seatclaim tail [OPTIONS] [PATH]", "", "Arguments:",
   "  [PATH]  Log file to read (default: newest `*.log` in the data directory)", "", "Options:",
   "  -n, --lines <LINES>  Number of lines to show [default: 20]",
   "  -f, --follow         Keep printing new lines until the run writes its FINAL marker",
   "      --poll-ms <MS>   Poll interval while following [default: 500]",
   "      --config <PATH>  Configuration file, used to locate the data directory",
   "  -h, --help           Print help"]

def helpHelp : List String :=
  ["Print this message or the help of the given subcommand(s)", "",
   "Usage: seatclaim help [COMMAND]...", "", "Arguments:",
   "  [COMMAND]...  Print help for the subcommand(s)"]

def helpFor (words : List Text) : List String :=
  let topic := if words.head? = some helpWord then words.drop 1 else words
  match topic with
  | w :: _ =>
    if w = runWord then runHelp
    else if w = tailWord then tailHelp
    else if w = helpWord then helpHelp
    else frontHelp
  | [] => frontHelp

def UsageFault.message : UsageFault → String
  | unknownArgument => "unexpected argument"
  | invalidValue => "a value is required"
  | valueValidation => "invalid value"
  | argumentConflict => "an argument cannot be used multiple times"
  | tooManyValues => "unexpected value"
  | missingRequired => "required arguments were not provided"
  | invalidSubcommand => "unrecognized subcommand"
  | noSubcommand => "a subcommand is required"
  | help => "help is shown"
  | version => "the version is shown"

def errorOpening : Text := lit "error: "

def text (lines : List String) : Text := lines.flatMap fun l => lit l ++ ['\n']

def refused (words : List Text) (f : UsageFault) (tree : Tree) : Session :=
  match f with
  | .help => { output := Utf8.encode (text (helpFor words)), exitCode := f.exitCode, tree }
  | .version => { output := Utf8.encode (text [versionLine]), exitCode := f.exitCode, tree }
  | .noSubcommand => { complaints := text frontHelp, exitCode := f.exitCode, tree }
  | _ => { complaints := errorOpening ++ text [f.message], exitCode := f.exitCode, tree }

end BookingRetry.CommandLine
