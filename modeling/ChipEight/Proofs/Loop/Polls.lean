import ChipEight.Loop.Cpu
import ChipEight.Proofs.Machine.Effects

/-!
# What polls do to a machine

A poll that finds work due first ticks the timers and then makes a cycle, each only if it is
due. Seen from the machine, a run of the cpu loop is therefore a fold over the firings of its
polls, and the answers of the cycles it makes are a function of these firings.

The pass of the loop is compared with the fold in one law, `CpuLoop.act_effect`. The theories
of the loop on its own and of both loops together use this law and never open the pass.
-/

namespace ChipEight

namespace Machine

/-- The machine after the tick of a poll, and before its cycle. -/
def ticked (machine : Machine) (fired : Fired) : Machine :=
  if fired.timer then machine.tick else machine

/-- The machine after a poll. A failed cycle counts with what it leaves. -/
def poll (machine : Machine) (fired : Fired) : Machine :=
  if fired.cpu then (machine.ticked fired).cycle.1 else machine.ticked fired

/-- The answer of the cycle of a poll, if the poll makes one. -/
def answer? (machine : Machine) (fired : Fired) : Option (Except Fault Signal) :=
  if fired.cpu then some (machine.ticked fired).cycle.2 else none

/-- The machine after several polls. -/
def polls (machine : Machine) (firings : List Fired) : Machine := firings.foldl poll machine

/-- The answers of all cycles that several polls make, in their order. -/
def answers (machine : Machine) : List Fired → List (Except Fault Signal)
  | [] => []
  | fired :: later => (machine.answer? fired).toList ++ (machine.poll fired).answers later

/-- One more poll acts on the machine that the earlier ones left. -/
theorem polls_concat (machine : Machine) (firings : List Fired) (fired : Fired) :
    machine.polls (firings ++ [fired]) = (machine.polls firings).poll fired := by
  simp [polls]

/-- One more poll adds the answer of its own cycle, if it makes one. -/
theorem answers_concat (machine : Machine) (firings : List Fired) (fired : Fired) :
    machine.answers (firings ++ [fired]) =
      machine.answers firings ++ ((machine.polls firings).answer? fired).toList := by
  induction firings generalizing machine with
  | nil => simp [answers, polls]
  | cons first later inductionHypothesis =>
    simp only [List.cons_append, answers, List.append_assoc]
    rw [inductionHypothesis]
    rfl

/-- A tick leaves the screen alone. -/
theorem ticked_screen (machine : Machine) (fired : Fired) :
    (machine.ticked fired).screen = machine.screen := by
  unfold ticked
  split <;> rfl

/-- A poll that changes the screen makes a cycle that answers that it drew. -/
theorem poll_screen (machine : Machine) (fired : Fired)
    (quiet : machine.answer? fired ≠ some (.ok .drawn)) :
    (machine.poll fired).screen = machine.screen := by
  cases due : fired.cpu with
  | false => simp [poll, due, ticked_screen]
  | true =>
    have silent : (machine.ticked fired).cycle.2 ≠ .ok .drawn := fun drawn =>
      quiet (by simp [answer?, due, drawn])
    have kept : (machine.ticked fired).cycle.1.screen = (machine.ticked fired).screen :=
      cycle_screen rfl silent
    simp [poll, due, kept, ticked_screen]

/-- A poll moves no key. -/
theorem poll_keypad (machine : Machine) (fired : Fired) :
    (machine.poll fired).keypad = machine.keypad := by
  have ticked : (machine.ticked fired).keypad = machine.keypad := by
    unfold Machine.ticked
    split <;> rfl
  unfold poll
  split
  · rw [cycle_keypad, ticked]
  · exact ticked

end Machine

/-- The fault in the answer of a poll, if its cycle failed. -/
def failure? : Option (Except Fault Signal) → Option Fault
  | some (.error fault) => some fault
  | _ => none

/-- Only a failed cycle has a fault. -/
theorem failure?_eq_some {answer : Option (Except Fault Signal)} {fault : Fault} :
    failure? answer = some fault ↔ answer = some (.error fault) := by
  cases answer with
  | none => simp [failure?]
  | some answer => cases answer <;> simp [failure?]

namespace CpuLoop

/-- What a pass of the loop does, in the words of the machine. -/
structure Effect (loop : CpuLoop) (fired : Fired) (console : Console) (turn : CpuTurn) :
    Prop where
  machine : turn.console.machine = console.machine.poll fired
  fault : turn.fault = failure? (console.machine.answer? fired)
  /-- Only a cycle that draws asks for a redraw, and nothing takes a request back. -/
  redraw : turn.console.redraw = true ↔
    console.redraw = true ∨ console.machine.answer? fired = some (.ok .drawn)
  /-- Only a cycle that fails asks both loops to stop. -/
  stop : turn.console.stop = (console.stop || turn.fault.isSome)
  scheduler : turn.loop.scheduler = loop.scheduler

/-- The tick of a poll reaches the machine and no flag. -/
theorem ticked_console (console : Console) (fired : Fired) :
    (if fired.timer then console.tick else console) =
      { console with machine := console.machine.ticked fired } := by
  unfold Machine.ticked Console.tick
  split <;> rfl

/-- Every pass has the effect above. -/
theorem act_effect (loop : CpuLoop) (fired : Fired) (console : Console) :
    Effect loop fired console (loop.act fired console) := by
  unfold act
  rw [ticked_console]
  cases due : fired.cpu with
  | false =>
    constructor <;> simp [Machine.poll, Machine.answer?, failure?, due]
  | true =>
    have made : console.machine.answer? fired = some (console.machine.ticked fired).cycle.2 := by
      simp [Machine.answer?, due]
    cases answered : (console.machine.ticked fired).cycle.2 with
    | error fault =>
      constructor <;>
        simp [Machine.poll, Console.cycle, Console.raiseStop, failure?, due, made, answered]
    | ok signal =>
      constructor <;>
        cases signal <;> simp [Machine.poll, Console.cycle, failure?, due, made, answered]

end CpuLoop
end ChipEight
