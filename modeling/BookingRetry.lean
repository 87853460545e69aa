import BookingRetry.Booking
import BookingRetry.Candidate
import BookingRetry.Candidate.Reader
import BookingRetry.Clock
import BookingRetry.CommandLine.Grammar
import BookingRetry.CommandLine.Help
import BookingRetry.CommandLine.Request
import BookingRetry.Config.Engine
import BookingRetry.Host
import BookingRetry.Config.Json
import BookingRetry.Config.Layer
import BookingRetry.Config.Setting
import BookingRetry.Config.Toml.Document
import BookingRetry.Config.Toml.Number
import BookingRetry.Config.Toml.Text
import BookingRetry.Session.Basic
import BookingRetry.Files.Basic
import BookingRetry.Files.Tree
import BookingRetry.Json.Value
import BookingRetry.Json.Outline
import BookingRetry.Json.Printer
import BookingRetry.Json.Reader
import BookingRetry.Log.Journal
import BookingRetry.Log.Record
import BookingRetry.Main
import BookingRetry.Number.Binary64
import BookingRetry.Number.Extended
import BookingRetry.Number.Shortest
import BookingRetry.Observer
import BookingRetry.Outcome
import BookingRetry.Program.Launch
import BookingRetry.Program.Tool
import BookingRetry.Run.Report
import BookingRetry.Run.Step
import BookingRetry.Run.World
import BookingRetry.Session.Run
import BookingRetry.Session.Tail
import BookingRetry.Shell.Condition
import BookingRetry.Shell.Expansion
import BookingRetry.Shell.Format
import BookingRetry.Shell.Pattern
import BookingRetry.Shell.Reader
import BookingRetry.Shell.Run
import BookingRetry.Shell.State
import BookingRetry.Shell.Sum
import BookingRetry.Shell.Syntax
import BookingRetry.Shell.Token
import BookingRetry.Span
import BookingRetry.Stamp
import BookingRetry.Text.Basic
import BookingRetry.Text.Lowercase
import BookingRetry.Text.Quoted
import BookingRetry.Text.Numeral
import BookingRetry.Text.Utf8
import BookingRetry.Verdict
import BookingRetry.Proofs.Rotation
import BookingRetry.Proofs.Text.Basic
import BookingRetry.Proofs.Text.Lines
import BookingRetry.Proofs.Text.Numeral
import BookingRetry.Proofs.Text.Utf8
import BookingRetry.Proofs.Stamp
import BookingRetry.Proofs.Log.Record
import BookingRetry.Proofs.Outcome
import BookingRetry.Proofs.Outcome.Marker
import BookingRetry.Proofs.Log.Journal
import BookingRetry.Proofs.Log.ReadBack
import BookingRetry.Proofs.Observer
import BookingRetry.Proofs.Run.Course
import BookingRetry.Proofs.Run.Failures
import BookingRetry.Proofs.Run.Notes
import BookingRetry.Proofs.Run.Logging
import BookingRetry.Proofs.Run.Attempts
import BookingRetry.Proofs.Run.Report
import BookingRetry.Proofs.Run.Timetable
import BookingRetry.Proofs.Run.Schedule
import BookingRetry.Proofs.Run.Completion
import BookingRetry.Proofs.Run.Observed
import BookingRetry.Proofs.Run.Spacing
import BookingRetry.Proofs.Observer.Follow
import BookingRetry.Proofs.Observer.Growth
import BookingRetry.Proofs.Run.Cancellation
import BookingRetry.Proofs.Run.Deadline
import BookingRetry.Proofs.Observer.Reading
import BookingRetry.Proofs.Observer.Judgement
import BookingRetry.Proofs.Session.Tail
import BookingRetry.Proofs.Run.Rendering
import BookingRetry.Proofs.Run.LogFaults
import BookingRetry.Proofs.Run.Ending
import BookingRetry.Proofs.Session.Preflight
import BookingRetry.Proofs.Session.Run
import BookingRetry.Proofs.Json.Reading
import BookingRetry.Proofs.Json.Writing
import BookingRetry.Proofs.Candidate.Acceptance
import BookingRetry.Proofs.Candidate.RoundTrip
import BookingRetry.Proofs.Log.Canonical
import BookingRetry.Proofs.Text.Lowercase
import BookingRetry.Proofs.Verdict
import BookingRetry.Proofs.Observer.Reuse
import BookingRetry.Proofs.Run.Behind
import BookingRetry.Proofs.Run.Reuse
import BookingRetry.Proofs.Selection.Grammar
import BookingRetry.Proofs.Selection.Choice
import BookingRetry.Proofs.Observer.Concatenation
import BookingRetry.Proofs.Log.Mirroring
import BookingRetry.Proofs.Text.Folding
import BookingRetry.Proofs.Log.Folding
import BookingRetry.Proofs.Config.Layers
import BookingRetry.Proofs.Config.Precedence
import BookingRetry.Proofs.Config.Toml
import BookingRetry.Proofs.Config.Guessing
import BookingRetry.Proofs.Config.Environment
import BookingRetry.Proofs.Run.Summary
import BookingRetry.Proofs.Run.Cadence
import BookingRetry.Proofs.Text.LetterCase
import BookingRetry.Proofs.Verdict.Respelling
import BookingRetry.Proofs.Observer.Latest
import BookingRetry.Proofs.Outcome.Stanza
import BookingRetry.Proofs.Json.Reordering
import BookingRetry.Proofs.Text.ByteOrder
import BookingRetry.Proofs.Json.Canonical
import BookingRetry.Proofs.Json.Soundness
import BookingRetry.Proofs.Candidate.Reordering
import BookingRetry.Proofs.Candidate.Canonical
import BookingRetry.Proofs.Pacing
import BookingRetry.Proofs.Config.Json
