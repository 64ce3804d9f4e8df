import ChipEight.Proofs.Session.Steps

/-!
# What happens in a session

A history lists what the steps of a schedule did, in their order: passes that were begun,
ticks and cycles that were made, what the surface answered, and whether the cpu loop broke
down. It is read off the phase a loop is in before its step and the answers of the
surroundings; the journal and the results of the loops have no part in it.

The verdict on a history is the result a run with this history should return. It looks for a
refusal of the surface first, then for a break-down, which leaves the cpu loop without an answer of its
own, then for a cycle that failed. Whether the loops come to this verdict is the theory of the
outcome.
-/

namespace ChipEight

/-- What can happen in a step. -/
inductive Happening
  /-- A loop found the stop flag down and began a pass. -/
  | passed (thread : Thread)
  | ticked
  | cycled (answer : Except Fault Signal)
  /-- A cycle ended where it was, without an answer. -/
  | brokeOff
  /-- The cpu loop broke down. -/
  | panicked
  | polled (reply : Except DeviceError (Option SurfaceEvent))
  | displayed (refusal : Option DeviceError)

namespace Happening

/-- A pass was begun. -/
def isPass : Happening → Bool
  | passed _ => true
  | _ => false

/-- The timers ticked. -/
def isTick : Happening → Bool
  | ticked => true
  | _ => false

/-- A cycle was begun. -/
def isCycle : Happening → Bool
  | cycled _ | brokeOff => true
  | _ => false

/-- The cpu loop broke down. -/
def isPanic : Happening → Bool
  | panicked => true
  | _ => false

/-- The surface was asked for an event. -/
def isPoll : Happening → Bool
  | polled _ => true
  | _ => false

/-- The surface was given a picture. -/
def isDisplay : Happening → Bool
  | displayed _ => true
  | _ => false

/-- The answer of a cycle. -/
def answer? : Happening → Option (Except Fault Signal)
  | cycled answer => some answer
  | _ => none

/-- The fault of a cycle that failed. -/
def fault? : Happening → Option Fault
  | cycled (.error fault) => some fault
  | _ => none

/-- The failure of the surface, at a poll or at a display call. -/
def deviceFailure? : Happening → Option DeviceError
  | polled (.error failure) => some failure
  | displayed refusal => refusal
  | _ => none

/-- The user asked for the end. -/
def isExit : Happening → Bool
  | polled (.ok (some .exit)) => true
  | _ => false

end Happening

open Happening

/-- The faults of a history. -/
def faults (past : List Happening) : List Fault := past.filterMap fault?

/-- The answers of the cycles of a history. -/
def cycleAnswers (past : List Happening) : List (Except Fault Signal) := past.filterMap answer?

/-- The failures of the surface in a history. -/
def deviceFailures (past : List Happening) : List DeviceError := past.filterMap deviceFailure?

/-- Faults come in the order of their cycles. -/
theorem faults_append (past more : List Happening) :
    faults (past ++ more) = faults past ++ faults more := List.filterMap_append

/-- Answers come in the order of their cycles. -/
theorem cycleAnswers_append (past more : List Happening) :
    cycleAnswers (past ++ more) = cycleAnswers past ++ cycleAnswers more := List.filterMap_append

/-- Failures of the surface come in their order. -/
theorem deviceFailures_append (past more : List Happening) :
    deviceFailures (past ++ more) = deviceFailures past ++ deviceFailures more :=
  List.filterMap_append

/-- Where the surface did not fail before, it failed as it does later. -/
theorem deviceFailures_of_none {past : List Happening} (unfailed : deviceFailures past = [])
    (more : List Happening) : deviceFailures (past ++ more) = deviceFailures more := by
  rw [deviceFailures_append, unfailed, List.nil_append]

/-- A fault of the history is the answer of a cycle. -/
theorem mem_faults {past : List Happening} {fault : Fault} :
    fault ∈ faults past ↔ .cycled (.error fault) ∈ past := by
  constructor
  · intro present
    obtain ⟨happening, happened, reads⟩ := List.mem_filterMap.mp present
    cases happening with
    | cycled answer =>
      cases answer with
      | error cause =>
        obtain rfl : cause = fault := Option.some.inj reads
        exact happened
      | ok signal => simp [fault?] at reads
    | _ => simp [fault?] at reads
  · intro happened
    exact List.mem_filterMap.mpr ⟨.cycled (.error fault), happened, rfl⟩

/-- In a history without faults every cycle succeeded. -/
theorem cycles_succeed {past : List Happening} (noFault : faults past = [])
    (answer : Except Fault Signal) (made : .cycled answer ∈ past) :
    ∃ signal, answer = .ok signal := by
  cases answer with
  | ok signal => exact ⟨signal, rfl⟩
  | error fault =>
    have present : fault ∈ faults past := mem_faults.mpr made
    simp [noFault] at present

/-- A request for the end is the answer to a poll. -/
theorem exit_mem {past : List Happening} (exited : past.any isExit = true) :
    .polled (.ok (some .exit)) ∈ past := by
  obtain ⟨happening, happened, asks⟩ := List.any_eq_true.mp exited
  cases happening with
  | polled reply =>
    rcases reply with failure | _ | ⟨host | _⟩
    · simp [isExit] at asks
    · simp [isExit] at asks
    · simp [isExit] at asks
    · exact happened
  | _ => simp [isExit] at asks

/-- The result that a history calls for. -/
def verdict (past : List Happening) : Except RunError Unit :=
  match (deviceFailures past).head?, past.any isPanic, (faults past).head? with
  | some failure, _, _ => .error (.device failure)
  | none, true, _ => .error .workerPanicked
  | none, false, some fault => .error (.process fault)
  | none, false, none => .ok ()

/-- A favourable verdict needs a history without failures. -/
theorem verdict_ok {past : List Happening} (favourable : verdict past = .ok ()) :
    deviceFailures past = [] ∧ faults past = [] ∧ past.any isPanic = false := by
  unfold verdict at favourable
  split at favourable
  · simp at favourable
  · simp at favourable
  · simp at favourable
  · rename_i noFailure noPanic noFault
    exact ⟨List.head?_eq_none_iff.mp noFailure, List.head?_eq_none_iff.mp noFault, noPanic⟩

/-- A verdict that names a fault names the first one, where the cpu loop did not break down. -/
theorem verdict_process {past : List Happening} {fault : Fault}
    (blames : verdict past = .error (.process fault)) :
    (faults past).head? = some fault ∧ past.any isPanic = false := by
  unfold verdict at blames
  split at blames
  · simp at blames
  · simp at blames
  · rename_i cause _ noPanic first
    obtain rfl : cause = fault := by simpa using blames
    exact ⟨first, noPanic⟩
  · simp at blames

/-- A cycle that failed is never passed over. -/
theorem verdict_of_fault {past : List Happening} {fault : Fault}
    (failed : .cycled (.error fault) ∈ past) : verdict past ≠ .ok () := by
  intro favourable
  have present : fault ∈ faults past := mem_faults.mpr failed
  simp [(verdict_ok favourable).2.1] at present

namespace Session

/-- What a reading of the cpu loop's clock does to the loop. -/
def clockHappenings (around : Surroundings) (session : Session) : List Happening :=
  match around.cpuClock session.cpuReadings with
  | some _ => []
  | none => [.panicked]

/-- What becomes of the cycle of a machine in a pass that breaks down in the last of some requests. The
cycle was over if that is a request of the loop itself. -/
def brokenCycle (machine : Machine) (requests : List Request) : Happening :=
  if machine.isDoneBy requests then .cycled machine.cycle.2 else .brokeOff

/-- What becomes of the cycle of a pass, and whether the loop breaks down in it. -/
def cycleHappenings (around : Surroundings) (session : Session) (loop : CpuLoop) (fired : Fired) :
    List Happening :=
  match session.brokenPass? around loop fired with
  | some requests => [brokenCycle (session.console.machine.ticked fired) requests, .panicked]
  | none => ((session.console.machine.answer? fired).map Happening.cycled).toList

/-- What the next step of a loop does. The tick of a pass comes before its cycle. -/
def happenings (around : Surroundings) (session : Session) : Thread → List Happening
  | .cpu =>
    match session.cpu with
    | .starting => session.clockHappenings around
    | .checking _ => if session.console.stop then [] else [.passed .cpu]
    | .polling _ => session.clockHappenings around
    | .acting loop fired =>
      (if fired.timer then [.ticked] else []) ++ session.cycleHappenings around loop fired
    | .ended _ => []
  | .surface =>
    match session.surface with
    | .checking _ => if session.console.stop then [] else [.passed .surface]
    | .polling _ => [.polled (around.reply session.polls)]
    | .displaying _ _ => [.displayed (around.refusal session.displays)]
    | _ => []

/-- What the steps of a schedule do. -/
def history (around : Surroundings) (session : Session) : List Thread → List Happening
  | [] => []
  | thread :: later =>
    session.happenings around thread ++ (session.step around thread).history around later

/-- A reading of the clock is no more than a possible break-down. -/
theorem clockHappenings_silent (around : Surroundings) (session : Session) :
    deviceFailures (session.clockHappenings around) = [] ∧
      cycleAnswers (session.clockHappenings around) = [] ∧
      faults (session.clockHappenings around) = [] := by
  unfold clockHappenings
  split <;> exact ⟨rfl, rfl, rfl⟩

/-- A cycle in which the loop breaks down has its own answer or none. -/
theorem brokenCycle_cases (machine : Machine) (requests : List Request) :
    brokenCycle machine requests = .cycled machine.cycle.2 ∨
      brokenCycle machine requests = .brokeOff := by
  unfold brokenCycle
  split
  · exact .inl rfl
  · exact .inr rfl

/-- The surface has no part in a step of the cpu loop. -/
theorem cpu_deviceFailures (around : Surroundings) (session : Session) :
    deviceFailures (session.happenings around .cpu) = [] := by
  cases phase : session.cpu with
  | starting => simpa only [happenings, phase] using (session.clockHappenings_silent around).1
  | checking loop =>
    simp only [happenings, phase]
    split <;> rfl
  | polling loop => simpa only [happenings, phase] using (session.clockHappenings_silent around).1
  | acting loop fired =>
    simp only [happenings, cycleHappenings, phase, deviceFailures, List.filterMap_append]
    cases session.brokenPass? around loop fired with
    | some requests =>
      rcases brokenCycle_cases (session.console.machine.ticked fired) requests with cycle | cycle <;>
        cases fired.timer <;> simp [cycle, deviceFailure?]
    | none => cases fired.timer <;> cases session.console.machine.answer? fired <;> rfl
  | ended result => simp [happenings, phase, deviceFailures]

/-- The cpu loop has no part in a step of the surface loop. -/
theorem surface_cycles (around : Surroundings) (session : Session) :
    cycleAnswers (session.happenings around .surface) = [] ∧
      faults (session.happenings around .surface) = [] ∧
      (session.happenings around .surface).any isPanic = false := by
  unfold happenings
  cases session.surface with
  | checking loop =>
    dsimp only
    split <;> exact ⟨rfl, rfl, rfl⟩
  | _ => exact ⟨rfl, rfl, rfl⟩

/-- The cpu loop raises the stop flag with a cycle that fails, unless it breaks down. -/
theorem stepCpu_stop (around : Surroundings) (session : Session) :
    (session.stepCpu around).console.stop = true ↔
      session.console.stop = true ∨ faults (session.happenings around .cpu) ≠ [] ∧
        (session.happenings around .cpu).any isPanic = false := by
  rw [stepCpu_console]
  cases phase : session.cpu with
  | acting loop fired =>
    simp only [happenings, cycleHappenings, phase]
    cases session.brokenPass? around loop fired with
    | some requests => simp [breakDown, isPanic]
    | none =>
      have effect := CpuLoop.act_effect loop fired session.console
      simp only [effect.stop, effect.fault, faults, Bool.or_eq_true]
      refine or_congr_right ?_
      cases fired.timer <;> rcases session.console.machine.answer? fired with _ | ⟨fault | signal⟩ <;>
        simp [failure?, fault?, isPanic]
  | checking loop =>
    cases raised : session.console.stop <;> simp [happenings, phase, faults, raised, fault?]
  | ended result => simp [happenings, phase, faults]
  | _ =>
    simp only [happenings, phase, (session.clockHappenings_silent around).2.2, ne_eq,
      not_true_eq_false, false_and, or_false]

/-- The surface loop raises the stop flag when the user asks for the end, and after its own. -/
theorem stepSurface_stop (around : Surroundings) (session : Session) :
    (session.stepSurface around).console.stop = true ↔
      session.console.stop = true ∨ (session.happenings around .surface).any isExit = true ∨
        ∃ failure, session.surface = .stopping failure := by
  cases phase : session.surface with
  | polling loop =>
    rcases replied : around.reply session.polls with failure | _ | ⟨host | _⟩ <;>
      simp [stepSurface, happenings, phase, replied, answered, Console.raiseStop, isExit]
  | checking loop =>
    cases raised : session.console.stop <;> simp [stepSurface, happenings, phase, raised, isExit]
  | pressing loop host now =>
    obtain ⟨keypad, pressed⟩ := loop.press_console host now session.console
    simp [stepSurface, happenings, phase, pressed]
  | releasing loop now =>
    obtain ⟨keypad, released⟩ := loop.release_console now session.console
    simp [stepSurface, happenings, phase, released]
  | framing loop now =>
    cases due : (loop.ticker.fire now).2 with
    | false => simp [stepSurface, happenings, phase, loop.snapshot_early now session.console due]
    | true => simp [stepSurface, happenings, phase, (loop.snapshot_due now session.console due).1]
  | displaying loop frame =>
    cases refused : around.refusal session.displays <;>
      simp [stepSurface, happenings, phase, refused, isExit]
  | joining failure =>
    cases ended : session.cpu <;> simp [stepSurface, happenings, phase, ended]
  | stopping failure => simp [stepSurface, happenings, phase, Console.raiseStop]
  | _ => simp [stepSurface, happenings, phase]

end Session
end ChipEight
