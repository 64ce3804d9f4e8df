import ChipEight.Loop
import ChipEight.Machine.Requests

/-!
# The cpu loop

The loop polls its scheduler. When a tick is due it ticks the timers, when a cycle is due it
runs one, in this order. A cycle that draws raises the redraw flag. The first cycle of every
stretch of waiting is reported. A cycle that fails is reported with the program counter it
left, raises the stop flag and ends the loop; otherwise the loop ends when it finds the flag
raised before a poll.

`turn` is one pass through the loop, `run` a whole run on its own, where the stop flag is
seen according to a given schedule.
-/

namespace ChipEight

/-- What the loop remembers between two polls: its scheduler, and whether the last cycle
waited for a key. -/
structure CpuLoop where
  scheduler : Scheduler
  waiting : Bool
  deriving DecidableEq, Repr

/-- What a pass leaves. A fault ends the loop. -/
structure CpuTurn where
  loop : CpuLoop
  console : Console
  fault : Option Fault
  notices : List Notice

namespace CpuLoop

/-- The loop starts with a clock reading. -/
def start (paces : Paces) (now : Instant) : CpuLoop :=
  ⟨.start paces.cpuHertz paces.timerHertz now, false⟩

/-- Finds out what is due. -/
def poll (loop : CpuLoop) (now : Instant) : CpuLoop × Fired :=
  let (scheduler, fired) := loop.scheduler.poll now
  ({ loop with scheduler }, fired)

/-- Does what is due. -/
def act (loop : CpuLoop) (fired : Fired) (console : Console) : CpuTurn :=
  let ticked := if fired.timer then console.tick else console
  if fired.cpu then
    let (after, answer) := ticked.cycle
    let notices := ticked.machine.cycleNotices
    match answer with
    | .ok signal =>
      let waits := signal == .waiting
      { loop := { loop with waiting := waits }
        console := after
        fault := none
        notices := notices ++ if waits && !loop.waiting then [.awaitingKey] else [] }
    | .error fault =>
      { loop
        console := after.raiseStop
        fault := some fault
        notices := notices ++ [.stopped after.machine.pc fault] }
  else { loop, console := ticked, fault := none, notices := [] }

/-- The record that the loop itself makes of a cycle, if it makes one. -/
def ownRequests (loop : CpuLoop) (after : Machine) : Except Fault Signal → List Request
  | .ok signal => if signal == .waiting && !loop.waiting then [⟨after, some .awaitingKey⟩] else []
  | .error fault => [⟨after, some (.stopped after.pc fault)⟩]

/-- What a pass asks of the outside while it holds the machine. -/
def requests (loop : CpuLoop) (fired : Fired) (console : Console) : List Request :=
  let ticked := if fired.timer then console.tick else console
  if fired.cpu then
    let (after, answer) := ticked.machine.cycle
    ticked.machine.cycleRequests ++ loop.ownRequests after answer
  else []

/-- One pass: a poll, and what was found due. -/
def turn (loop : CpuLoop) (now : Instant) (console : Console) : CpuTurn :=
  let (polled, fired) := loop.poll now
  polled.act fired console

end CpuLoop

/-- The loop at some time of a run on its own. `polls` counts the polls made, `readings` the
readings of the clock. -/
structure CpuRun where
  loop : CpuLoop
  console : Console
  polls : Nat
  readings : Nat
  fault : Option Fault
  journal : Array Notice

namespace CpuRun

/-- The loop before its first poll; the clock was read once. -/
def start (paces : Paces) (clock : Clock) (console : Console) : CpuRun :=
  ⟨.start paces (clock 0), console, 0, 1, none, #[]⟩

/-- One pass through the loop. -/
def turn (clock : Clock) (run : CpuRun) : CpuRun :=
  let turn := run.loop.turn (clock run.readings) run.console
  { loop := turn.loop
    console := turn.console
    polls := run.polls + 1
    readings := run.readings + 1
    fault := turn.fault
    journal := run.journal ++ turn.notices }

/-- Passes through the loop until it ends. The check before poll `k` finds the stop flag
raised iff `stopSeen k` holds; `none` means that the loop did not end within the bound. -/
def finish? (clock : Clock) (stopSeen : Nat → Bool) : (bound : Nat) → CpuRun → Option CpuRun
  | 0, _ => none
  | bound + 1, run =>
    if stopSeen run.polls then some { run with console := run.console.raiseStop }
    else
      let next := run.turn clock
      if next.fault.isSome then some next else next.finish? clock stopSeen bound

end CpuRun
end ChipEight
