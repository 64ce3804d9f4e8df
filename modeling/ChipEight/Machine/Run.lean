import ChipEight.Machine.Journal

/-!
# Several cycles in a row

A counted run makes cycles until one fails or enough were made, and keeps count of what they
answered.
-/

namespace ChipEight

/-- A machine that makes cycles: how many succeeded, how many of them drew or waited, and the
fault that ended the run, if any. -/
structure CycleRun where
  machine : Machine
  ran : Nat
  draws : Nat
  waits : Nat
  fault : Option Fault
  journal : Array Notice

namespace CycleRun

/-- No cycle was made yet. -/
def start (machine : Machine) : CycleRun := ⟨machine, 0, 0, 0, none, #[]⟩

/-- One more cycle. -/
def cycle (run : CycleRun) : CycleRun :=
  let (machine, answer) := run.machine.cycle
  let run := { run with machine, journal := run.journal ++ run.machine.cycleNotices }
  match answer with
  | .ok signal =>
    { run with
      ran := run.ran + 1
      draws := run.draws + if signal == .drawn then 1 else 0
      waits := run.waits + if signal == .waiting then 1 else 0 }
  | .error fault => { run with fault := some fault }

/-- Up to `count` cycles. -/
def cycles (run : CycleRun) : (count : Nat) → CycleRun
  | 0 => run
  | count + 1 => if run.fault.isSome then run else run.cycle.cycles count

end CycleRun
end ChipEight
