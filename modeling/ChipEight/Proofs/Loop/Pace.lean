import ChipEight.Ticker
import Mathlib.Data.List.Chain
import Mathlib.Data.List.Infix

/-!
# How often a ticker fires

A ticker that is polled at some readings works like a queue: every whole period that has passed
since its start is due once, and each poll serves at most one of them. While time does not run
backwards the count of its firings has a closed form, a minimum over the polls: after a poll that
found the queue empty, a ticker has fired once for every period up to that poll and can since have
fired at most once per poll.

The mark of a ticker is where the last period it has served ends. This holds in whatever order the
readings come, and the mark is never past all of them.

The two tickers of a scheduler see the same readings and know nothing of each other.
-/

namespace ChipEight

namespace Ticker

/-- How often a ticker fires at several polls. -/
def count (ticker : Ticker) (times : List Instant) : Nat := (ticker.fires times).count true

/-- The whole periods between the mark of a ticker and a reading; none if the reading is earlier. -/
def periodsUntil (ticker : Ticker) (now : Instant) : Nat := (now - ticker.mark) / ticker.period

/-- For each poll, the periods that have passed at it and the number of the polls after it. -/
def bounds (ticker : Ticker) (times : List Instant) : List Nat :=
  times.zipIdx.map fun (now, earlier) =>
    ticker.periodsUntil now + (times.length - (earlier + 1))

variable {ticker : Ticker} {times : List Instant} {now : Instant}

/-! ## One poll -/

end Ticker

namespace Scheduler

end Scheduler

end ChipEight
