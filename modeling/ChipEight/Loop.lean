import ChipEight.Machine.Journal
import ChipEight.Ticker

/-!
# What the loops around a machine share

A run consists of two loops. One executes cycles and ticks at their pace; the other serves
the surface, that is the keyboard and the display. They share the machine and two flags: one
asks for a redraw, the other asks both loops to stop. This module holds what they share, the
paces they keep and the reasons for which a run can end early.
-/

namespace ChipEight

/-- The paces of the loops. -/
structure Paces where
  cpuHertz : Nat := 500
  timerHertz : Nat := 60
  frameHertz : Nat := 60
  /-- How long a key stays down after it was reported. -/
  keyHold : Duration := 100000000
  /-- How long a loop rests when nothing is due. -/
  pollInterval : Duration := 1000000
  deriving DecidableEq, Repr

/-- The machine and the two flags. -/
structure Console where
  machine : Machine
  redraw : Bool
  stop : Bool

/-- A failure of the surface, in the words of the device. -/
structure DeviceError where
  reason : String
  deriving DecidableEq, Repr

/-- The message quotes the device. -/
def DeviceError.message (failure : DeviceError) : String :=
  "The device failed '" ++ failure.reason ++ "'."

/-- Why a run ended early. -/
inductive RunError
  | process (fault : Fault)
  | device (failure : DeviceError)
  | workerPanicked
  deriving DecidableEq, Repr

/-- The message quotes the cause. -/
def RunError.message : RunError → String
  | process fault => "The chip stopped '" ++ fault.message ++ "'."
  | device failure => "The surface stopped '" ++ failure.message ++ "'."
  | workerPanicked => "The cpu worker panicked."

namespace Console

/-- One cycle. A cycle that draws asks for a redraw; its failure is left to the caller. -/
def cycle (console : Console) : Console × Except Fault Signal :=
  let (machine, answer) := console.machine.cycle
  let drew := match answer with
    | .ok .drawn => true
    | _ => false
  ({ console with machine, redraw := console.redraw || drew }, answer)

/-- One tick of the timers. -/
def tick (console : Console) : Console := { console with machine := console.machine.tick }

/-- Asks both loops to stop. -/
def raiseStop (console : Console) : Console := { console with stop := true }

end Console
end ChipEight
