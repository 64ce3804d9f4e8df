/-!
# Periodic work

Time is a count of nanoseconds; it is only ever given, never asked for. A ticker fires when
a full period has passed since its mark and then moves the mark by exactly one period, so a
late poll is made up for by the following ones. Time may run backwards; it then counts as
not having passed.
-/

namespace ChipEight

/-- A point in time, in nanoseconds from some origin. -/
abbrev Instant := Nat

/-- A length of time in nanoseconds. -/
abbrev Duration := Nat

/-- The answers of a clock, by the count of earlier readings. -/
abbrev Clock := Nat → Instant

/-- The length of one period. A frequency of zero counts as one. -/
def Duration.ofHertz (hertz : Nat) : Duration := 1000000000 / max hertz 1

/-- A clock with some given answers that afterwards advances at a steady pace. -/
def Clock.stepping (times : Array Instant) (pace : Duration) : Clock := fun reading =>
  match times[reading]? with
  | some time => time
  | none => times.back?.getD 0 + pace * (reading + 1 - times.size)

/-- Work that is due once per period. -/
structure Ticker where
  period : Duration
  mark : Instant
  deriving DecidableEq, Repr

namespace Ticker

/-- Fires at most once, and only if a full period has passed since the mark. -/
def fire (ticker : Ticker) (now : Instant) : Ticker × Bool :=
  if ticker.period ≤ now - ticker.mark then
    ({ ticker with mark := ticker.mark + ticker.period }, true)
  else (ticker, false)

/-- The answers to several polls. -/
def fires (ticker : Ticker) : List Instant → List Bool
  | [] => []
  | now :: later => (ticker.fire now).2 :: (ticker.fire now).1.fires later

/-- The ticker after several polls. -/
def after (ticker : Ticker) (times : List Instant) : Ticker :=
  times.foldl (fun ticker now => (ticker.fire now).1) ticker

/-- One more poll moves on the ticker that the earlier ones left. -/
theorem after_concat (ticker : Ticker) (times : List Instant) (now : Instant) :
    ticker.after (times ++ [now]) = ((ticker.after times).fire now).1 := by
  simp [after]

/-- One more poll adds the answer of the ticker that the earlier ones left. -/
theorem fires_concat (ticker : Ticker) (times : List Instant) (now : Instant) :
    ticker.fires (times ++ [now]) = ticker.fires times ++ [((ticker.after times).fire now).2] := by
  induction times generalizing ticker with
  | nil => rfl
  | cons first later inductionHypothesis =>
    simp only [List.cons_append, fires]
    rw [inductionHypothesis]
    rfl

/-- Every poll has one answer. -/
theorem length_fires (ticker : Ticker) (times : List Instant) :
    (ticker.fires times).length = times.length := by
  induction times generalizing ticker with
  | nil => rfl
  | cons first later inductionHypothesis => simp [fires, inductionHypothesis]

end Ticker

/-- What is due at one poll. -/
structure Fired where
  cpu : Bool
  timer : Bool
  deriving DecidableEq, Repr

/-- Cycles and timer ticks, each at their own pace, on one clock. -/
structure Scheduler where
  cpu : Ticker
  timer : Ticker
  deriving DecidableEq, Repr

namespace Scheduler

/-- Both periods start at the same reading. -/
def start (cpuHertz timerHertz : Nat) (now : Instant) : Scheduler :=
  ⟨⟨.ofHertz cpuHertz, now⟩, ⟨.ofHertz timerHertz, now⟩⟩

/-- Both tickers see the same reading. -/
def poll (scheduler : Scheduler) (now : Instant) : Scheduler × Fired :=
  let (cpu, cpuFired) := scheduler.cpu.fire now
  let (timer, timerFired) := scheduler.timer.fire now
  (⟨cpu, timer⟩, ⟨cpuFired, timerFired⟩)

/-- The answers to several polls. -/
def polls (scheduler : Scheduler) : List Instant → List Fired
  | [] => []
  | now :: later => (scheduler.poll now).2 :: (scheduler.poll now).1.polls later

end Scheduler
end ChipEight
