import BookingRetry.Proofs.Files.Tree
import BookingRetry.Proofs.Run.Ending
import BookingRetry.Proofs.Run.Mirrored
import BookingRetry.Proofs.Run.Observed
import BookingRetry.Proofs.Session.Preflight

/-!
The output of the program, the log file that it leaves and its exit code tell one story, whether it
was refused before the first attempt, had nobody to try, or ran to an outcome.
-/
namespace BookingRetry

namespace RunRequest

open Run
open Log (encodeLines)
open Log.Journal (Mirrored)

structure LogHolds (r : RunRequest) (h : Host) (w : World) (log : OpenLog) (c : EngineConfig)
    (vendor : Booking → Nat → Span → Candidate → Reply) (alarms : Nat → Bool) : Prop where
  refused : ∀ reason, r.Refuses (log.host h) reason →
    let noted := (scene log).record w .crit (preflightMessage reason)
    noted.1 = .ok () ∧ (Plan.conclude w (.fatalInput 0 reason) noted.2).1 = .ok ()
  run : ∀ p, r.Passes (log.host h) p →
    (r.plan c p).LogHoldsUnder { w with call := vendor p.booking } alarms (scene log)

variable {r : RunRequest} {h : Host} {now : Stamp} {w : World} {c : EngineConfig} {log : OpenLog}
  {o : Outcome} {s : Scene} {vendor : Booking → Nat → Span → Candidate → Reply}
  {alarms : Nat → Bool} {steps : Nat}

end RunRequest

end BookingRetry
