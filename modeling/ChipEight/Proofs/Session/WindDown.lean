import ChipEight.Proofs.Session.History

/-!
# After the stop flag is raised

Nothing takes the stop flag down. Once it is raised neither loop begins another pass, so what
is still done is what is left of the pass a loop is in: at most one tick, one cycle, one poll
of the surface and one display call. Each of these bounds is an allowance that a phase has
left; a step uses as much of it as it does, and none is ever granted anew.

The loops do come to their end: a phase is a bounded number of steps away from it, whatever
the other loop does meanwhile.
-/

namespace ChipEight

namespace CpuPhase

/-- Ticks that are still made, and likewise cycles, when no further pass begins. -/
def workLeft : CpuPhase → Nat
  | polling _ | acting _ _ => 1
  | _ => 0

/-- Steps to the end, when no further pass begins. -/
def stepsLeft : CpuPhase → Nat
  | starting => 2
  | checking _ => 1
  | polling _ => 3
  | acting _ _ => 2
  | ended _ => 0

/-- A pass makes one tick and one cycle at most. -/
theorem workLeft_le (phase : CpuPhase) : phase.workLeft ≤ 1 := by
  cases phase <;> simp [workLeft]

/-- The end is never further away than from within a pass. -/
theorem stepsLeft_le (phase : CpuPhase) : phase.stepsLeft ≤ 3 := by
  cases phase <;> simp [stepsLeft]

/-- Only the end is no step away. -/
theorem ended_of_stepsLeft {phase : CpuPhase} (none : phase.stepsLeft = 0) :
    ∃ result, phase = .ended result := by
  cases phase with
  | ended result => exact ⟨result, rfl⟩
  | _ => simp [stepsLeft] at none

end CpuPhase

namespace SurfacePhase

/-- Polls that are still made when no further pass begins. -/
def pollsLeft : SurfacePhase → Nat
  | polling _ => 1
  | _ => 0

/-- Display calls that are still made when no further pass begins. -/
def displaysLeft : SurfacePhase → Nat
  | polling _ | pressing _ _ _ | releasing _ _ | framing _ _ | displaying _ _ => 1
  | _ => 0

/-- Steps to the end of the loop, when no further pass begins. -/
def stepsLeft : SurfacePhase → Nat
  | starting => 2
  | checking _ => 1
  | polling _ => 6
  | pressing _ _ _ => 5
  | releasing _ _ => 4
  | framing _ _ => 3
  | displaying _ _ => 2
  | stopping _ | joining _ | returned _ => 0

/-- The loop has ended; what is left is to raise the flag and to wait for the other loop. -/
def hasEnded : SurfacePhase → Bool
  | stopping _ | joining _ | returned _ => true
  | _ => false

/-- A pass polls once at most. -/
theorem pollsLeft_le (phase : SurfacePhase) : phase.pollsLeft ≤ 1 := by
  cases phase <;> simp [pollsLeft]

/-- A pass shows one picture at most. -/
theorem displaysLeft_le (phase : SurfacePhase) : phase.displaysLeft ≤ 1 := by
  cases phase <;> simp [displaysLeft]

/-- The end is never further away than from within a pass. -/
theorem stepsLeft_le (phase : SurfacePhase) : phase.stepsLeft ≤ 6 := by
  cases phase <;> simp [stepsLeft]

/-- Only after the end no step is left. -/
theorem hasEnded_of_stepsLeft {phase : SurfacePhase} (none : phase.stepsLeft = 0) :
    phase.hasEnded = true := by
  cases phase <;> simp_all [stepsLeft, hasEnded]

end SurfacePhase

namespace Session

open Happening

/-- What is done between two states of a session is within the allowance of the first, and the
second has no more left than what remains of it. -/
structure WindsDown (session after : Session) (done : List Happening) : Prop where
  passes : done.countP isPass = 0
  ticks : done.countP isTick + after.cpu.workLeft ≤ session.cpu.workLeft
  cycles : done.countP isCycle + after.cpu.workLeft ≤ session.cpu.workLeft
  polls : done.countP isPoll + after.surface.pollsLeft ≤ session.surface.pollsLeft
  displays : done.countP isDisplay + after.surface.displaysLeft ≤ session.surface.displaysLeft

variable {session after last : Session}

/-- Doing nothing uses nothing. -/
theorem WindsDown.refl (session : Session) : session.WindsDown session [] := by
  constructor <;> simp

/-- What is used up stays used up. -/
theorem WindsDown.trans {done more : List Happening} (first : session.WindsDown after done)
    (second : after.WindsDown last more) : session.WindsDown last (done ++ more) := by
  obtain ⟨passes, ticks, cycles, polls, displays⟩ := first
  obtain ⟨passes', ticks', cycles', polls', displays'⟩ := second
  constructor <;> rw [List.countP_append] <;> omega

/-- No step takes the stop flag down. -/
theorem step_stop (around : Surroundings) (raised : session.console.stop = true) (thread : Thread) :
    (session.step around thread).console.stop = true := by
  cases thread with
  | cpu => exact (stepCpu_stop around session).mpr (.inl raised)
  | surface => exact (stepSurface_stop around session).mpr (.inl raised)

/-- A clock reading that leads where a step is saved stays within the allowance. -/
theorem readCpuClock_windsDown (around : Surroundings) (next : Instant → CpuPhase)
    (work : ∀ now, (next now).workLeft ≤ session.cpu.workLeft)
    (steps : ∀ now, (next now).stepsLeft ≤ session.cpu.stepsLeft - 1) :
    session.WindsDown (session.readCpuClock around next) (session.clockHappenings around) ∧
      (session.readCpuClock around next).cpu.stepsLeft ≤ session.cpu.stepsLeft - 1 := by
  unfold readCpuClock clockHappenings
  cases around.cpuClock session.cpuReadings with
  | some now =>
    refine ⟨?_, steps now⟩
    constructor <;> simp [work now]
  | none =>
    refine ⟨?_, Nat.zero_le _⟩
    constructor <;> simp [isPass, isTick, isCycle, isPoll, isDisplay, CpuPhase.workLeft]

/-- With the stop flag raised, a step of the cpu loop does what is left of its pass and brings
its end nearer. -/
theorem stepCpu_windsDown (around : Surroundings) (raised : session.console.stop = true) :
    session.WindsDown (session.stepCpu around) (session.happenings around .cpu) ∧
      (session.stepCpu around).cpu.stepsLeft ≤ session.cpu.stepsLeft - 1 := by
  cases phase : session.cpu with
  | starting =>
    simp only [stepCpu, happenings, phase]
    rw [← phase]
    apply readCpuClock_windsDown <;> simp [phase, CpuPhase.workLeft, CpuPhase.stepsLeft]
  | checking loop =>
    simp only [stepCpu, happenings, phase, raised, if_true]
    refine ⟨?_, Nat.zero_le _⟩
    constructor <;> simp [CpuPhase.workLeft]
  | polling loop =>
    simp only [stepCpu, happenings, phase]
    rw [← phase]
    apply readCpuClock_windsDown <;> intro now <;> split <;>
      simp [phase, CpuPhase.workLeft, CpuPhase.stepsLeft]
  | acting loop fired =>
    simp only [stepCpu, happenings, cycleHappenings, phase]
    cases session.brokenPass? around loop fired with
    | some requests =>
      refine ⟨?_, Nat.zero_le _⟩
      rcases brokenCycle_cases (session.console.machine.ticked fired) requests with cycle | cycle <;>
        cases fired.timer <;> constructor <;>
        simp [phase, cycle, breakDown, List.countP_cons, isPass, isTick, isCycle, isPoll, isDisplay,
          CpuPhase.workLeft]
    | none =>
      refine ⟨?_, by cases (loop.act fired session.console).fault <;> simp [CpuPhase.stepsLeft]⟩
      cases (loop.act fired session.console).fault <;> cases fired.timer <;>
        cases session.console.machine.answer? fired <;>
        constructor <;>
        simp [phase, List.countP_cons, isPass, isTick, isCycle, isPoll, isDisplay, CpuPhase.workLeft]
  | ended result =>
    simp only [stepCpu, happenings, phase]
    exact ⟨.refl session, Nat.le_refl _⟩

/-- With the stop flag raised, a step of the surface loop does what is left of its pass and
brings its end nearer. -/
theorem stepSurface_windsDown (around : Surroundings) (raised : session.console.stop = true) :
    session.WindsDown (session.stepSurface around) (session.happenings around .surface) ∧
      (session.stepSurface around).surface.stepsLeft ≤ session.surface.stepsLeft - 1 := by
  cases phase : session.surface with
  | checking loop =>
    simp only [stepSurface, happenings, phase, raised, if_true]
    refine ⟨?_, Nat.zero_le _⟩
    constructor <;> simp [SurfacePhase.pollsLeft, SurfacePhase.displaysLeft]
  | polling loop =>
    simp only [stepSurface, happenings, phase]
    rcases around.reply session.polls with failure | _ | ⟨host | _⟩ <;>
      refine ⟨?_, by simp [answered, SurfacePhase.stepsLeft]⟩ <;> constructor <;>
      simp [phase, answered, isPass, isTick, isCycle, isPoll, isDisplay, SurfacePhase.pollsLeft,
        SurfacePhase.displaysLeft]
  | framing loop now =>
    simp only [stepSurface, happenings, phase]
    cases (loop.snapshot now session.console).2.2 <;>
      refine ⟨?_, by simp [SurfacePhase.stepsLeft]⟩ <;> constructor <;>
      simp [phase, SurfacePhase.pollsLeft, SurfacePhase.displaysLeft]
  | displaying loop frame =>
    simp only [stepSurface, happenings, phase]
    cases around.refusal session.displays <;>
      refine ⟨?_, by simp [SurfacePhase.stepsLeft]⟩ <;> constructor <;>
      simp [phase, isPass, isTick, isCycle, isPoll, isDisplay, SurfacePhase.pollsLeft,
        SurfacePhase.displaysLeft]
  | joining failure =>
    simp only [stepSurface, happenings, phase]
    cases ended : session.cpu <;>
      refine ⟨?_, by simp [phase, SurfacePhase.stepsLeft]⟩ <;> constructor <;>
      simp [phase, ended, SurfacePhase.pollsLeft, SurfacePhase.displaysLeft]
  | _ =>
    simp only [stepSurface, happenings, phase]
    refine ⟨?_, by simp [SurfacePhase.stepsLeft]⟩
    constructor <;> simp [phase, SurfacePhase.pollsLeft, SurfacePhase.displaysLeft]

/-- With the stop flag raised, the steps of any schedule stay within the allowance. -/
theorem run_windsDown (around : Surroundings) (raised : session.console.stop = true)
    (schedule : List Thread) :
    session.WindsDown (session.run around schedule) (session.history around schedule) := by
  induction schedule generalizing session with
  | nil => exact .refl session
  | cons thread later inductionHypothesis =>
    have rest := inductionHypothesis (step_stop around raised thread)
    cases thread with
    | cpu => exact (stepCpu_windsDown around raised).1.trans rest
    | surface => exact (stepSurface_windsDown around raised).1.trans rest

/-- With the stop flag raised, every step of a loop brings its end nearer. -/
theorem run_stepsLeft (around : Surroundings) (raised : session.console.stop = true)
    (schedule : List Thread) :
    (session.run around schedule).cpu.stepsLeft ≤
        session.cpu.stepsLeft - schedule.count .cpu ∧
      (session.run around schedule).surface.stepsLeft ≤
        session.surface.stepsLeft - schedule.count .surface := by
  induction schedule generalizing session with
  | nil => exact ⟨Nat.le_refl _, Nat.le_refl _⟩
  | cons thread later inductionHypothesis =>
    obtain ⟨cpu, surface⟩ := inductionHypothesis (step_stop around raised thread)
    cases thread with
    | cpu =>
      have nearer := (stepCpu_windsDown around raised).2
      have kept := (stepCpu_kept around session).surface
      simp only [run, List.foldl_cons, step, kept] at cpu surface ⊢
      constructor <;> simp only [List.count_cons] <;> simp <;> omega
    | surface =>
      have nearer := (stepSurface_windsDown around raised).2
      have kept := stepSurface_cpu around session
      simp only [run, List.foldl_cons, step, kept] at cpu surface ⊢
      constructor <;> simp only [List.count_cons] <;> simp <;> omega

end Session
end ChipEight
