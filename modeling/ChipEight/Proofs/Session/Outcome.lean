import ChipEight.Proofs.Session.Redraw
import ChipEight.Proofs.Session.Return
import Mathlib.Control.Monad.Basic

/-!
# The outcome of a run

Either loop may end first: the surface loop because the user quits, because the surface fails
or because it finds the stop flag raised, the cpu loop because a cycle fails, because it breaks
down or because it finds the flag raised. The cpu loop may even fail after the surface loop
has ended and before it is waited for. Whatever the order, a run returns after both loops have
ended, and returns the verdict on its history.

The invariant `Agrees` ties both phases and the stop flag to the history. Its part on the flag
is what rules out an unfounded success: until the surface loop is over, only a request of the
user or a cycle that failed can have raised the flag.

That a run does return needs that both loops go on taking steps, and a reason to stop. A worker that
breaks down is none: it raises no flag, and the surface loop goes on until it has a reason of its own.
-/

namespace ChipEight

open Happening

/-- There was a reason to stop other than a failure of the surface or of the worker. -/
def Prompted (past : List Happening) : Prop := past.any isExit = true ∨ faults past ≠ []

/-- No cycle failed and the cpu loop did not break down. -/
def Undisturbed (past : List Happening) : Prop := faults past = [] ∧ past.any isPanic = false

/-- The cpu loop ends as its cycles and requests say: with the first fault, which is also the
answer of the last cycle, or with a break-down. Until then nothing disturbs it. -/
def CpuAgrees (past : List Happening) : CpuPhase → Prop
  | .ended (.failed fault) =>
    faults past = [fault] ∧ (cycleAnswers past).getLast? = some (.error fault) ∧
      past.any isPanic = false
  | .ended .panicked => past.any isPanic = true
  | _ => Undisturbed past

/-- The surface loop ends with the failure of the surface, or has a reason to end without. -/
def SurfaceAgrees (past : List Happening) : SurfacePhase → Prop
  | .stopping failure | .joining failure =>
    deviceFailures past = failure.toList ∧ (failure = none → Prompted past)
  | .returned result => result = verdict past ∧ (result = .ok () → Prompted past)
  | _ => deviceFailures past = []

/-- The first fault of a cpu loop that has ended without a break-down is the answer of its last
cycle. -/
theorem CpuAgrees.last_fault {past : List Happening} {ended : CpuResult} {fault : Fault}
    (agrees : CpuAgrees past (.ended ended)) (first : (faults past).head? = some fault)
    (noPanic : past.any isPanic = false) :
    (cycleAnswers past).getLast? = some (.error fault) := by
  cases ended with
  | finished => simp [agrees.1] at first
  | panicked => nomatch noPanic.symm.trans agrees
  | failed cause =>
    obtain rfl : cause = fault := by simpa [agrees.1] using first
    exact agrees.2.1

/-- A reason to stop stays one. -/
theorem Prompted.append {past : List Happening} (prompted : Prompted past)
    (more : List Happening) : Prompted (past ++ more) := by
  rcases prompted with exited | failed
  · exact .inl (by rw [List.any_append, exited, Bool.true_or])
  · exact .inr (by rw [faults_append]; exact List.append_ne_nil_of_left_ne_nil failed _)

namespace Session

/-- What a session has in common with its history. -/
structure Agrees (session : Session) (past : List Happening) : Prop where
  cpu : CpuAgrees past session.cpu
  surface : SurfaceAgrees past session.surface
  /-- Until the surface loop is over, the flag is not raised without a reason. -/
  stop : session.console.stop = true → session.surface.isOver = true ∨ Prompted past
  joined : ∀ result, session.surface = .returned result → ∃ ended, session.cpu = .ended ended

variable {around : Surroundings} {session : Session} {past : List Happening}

/-- A reading of the clock leads the loop on, or breaks it down. -/
theorem readCpuClock_agrees {next : Instant → CpuPhase}
    (running : ∀ now, CpuAgrees past (next now)) :
    CpuAgrees (past ++ session.clockHappenings around) (session.readCpuClock around next).cpu := by
  unfold readCpuClock clockHappenings
  cases around.cpuClock session.cpuReadings with
  | some now =>
    rw [List.append_nil]
    exact running now
  | none => exact List.any_eq_true.mpr ⟨.panicked, by simp, rfl⟩

/-- What a pass of the cpu loop did while it held the machine is what it ends with. -/
theorem acting_agrees {loop : CpuLoop} {fired : Fired} (undisturbed : Undisturbed past)
    (phase : session.cpu = .acting loop fired) :
    CpuAgrees (past ++ session.happenings around .cpu) (session.stepCpu around).cpu := by
  have effect := CpuLoop.act_effect loop fired session.console
  obtain ⟨noFault, noPanic⟩ := undisturbed
  simp only [stepCpu, happenings, cycleHappenings, phase, effect.fault]
  cases session.brokenPass? around loop fired with
  | some requests => exact List.any_eq_true.mpr ⟨.panicked, by simp, rfl⟩
  | none =>
    rcases session.console.machine.answer? fired with _ | ⟨fault | signal⟩
    · cases fired.timer <;>
        exact ⟨by rw [faults_append, noFault]; rfl, by rw [List.any_append, noPanic]; rfl⟩
    · cases fired.timer <;>
        refine ⟨by rw [faults_append, noFault]; rfl, ?_, by rw [List.any_append, noPanic]; rfl⟩ <;>
        rw [cycleAnswers_append] <;> exact List.getLast?_concat
    · cases fired.timer <;>
        exact ⟨by rw [faults_append, noFault]; rfl, by rw [List.any_append, noPanic]; rfl⟩

/-- A step of the cpu loop accounts for what it did. -/
theorem stepCpu_agrees (agrees : CpuAgrees past session.cpu) :
    CpuAgrees (past ++ session.happenings around .cpu) (session.stepCpu around).cpu := by
  cases phase : session.cpu with
  | acting loop fired =>
    rw [phase] at agrees
    exact acting_agrees agrees phase
  | starting =>
    rw [phase] at agrees
    simp only [happenings, stepCpu, phase]
    exact readCpuClock_agrees fun _ => agrees
  | polling loop =>
    rw [phase] at agrees
    simp only [happenings, stepCpu, phase]
    refine readCpuClock_agrees fun now => ?_
    split <;> exact agrees
  | checking loop =>
    rw [phase] at agrees
    obtain ⟨noFault, noPanic⟩ := agrees
    cases raised : session.console.stop with
    | true =>
      simp only [happenings, stepCpu, phase, raised, if_true, List.append_nil]
      exact ⟨noFault, noPanic⟩
    | false =>
      simp only [happenings, stepCpu, phase, raised]
      exact ⟨by rw [faults_append, noFault]; rfl, by simp [noPanic, isPanic]⟩
  | ended result =>
    simp only [happenings, stepCpu, phase, List.append_nil]
    rwa [phase] at agrees

/-- A step of the cpu loop keeps the session in agreement with its history. -/
theorem Agrees.stepCpu (agrees : session.Agrees past) :
    (session.stepCpu around).Agrees (past ++ session.happenings around .cpu) := by
  have kept := (stepCpu_kept around session).surface
  have sameFailures : deviceFailures (past ++ session.happenings around .cpu) =
      deviceFailures past := by
    rw [deviceFailures_append, cpu_deviceFailures, List.append_nil]
  constructor
  · exact stepCpu_agrees agrees.cpu
  · rw [kept]
    have surface := agrees.surface
    cases phase : session.surface with
    | returned result =>
      obtain ⟨ended, settled⟩ := agrees.joined result phase
      have idle : session.happenings around .cpu = [] := by simp only [happenings, settled]
      rw [idle, List.append_nil, ← phase]
      exact surface
    | stopping failure =>
      rw [phase] at surface
      exact ⟨sameFailures.trans surface.1, fun quiet => (surface.2 quiet).append _⟩
    | joining failure =>
      rw [phase] at surface
      exact ⟨sameFailures.trans surface.1, fun quiet => (surface.2 quiet).append _⟩
    | _ =>
      rw [phase] at surface
      exact sameFailures.trans surface
  · intro raised
    rw [kept]
    rcases (stepCpu_stop around session).mp raised with before | failed
    · exact (agrees.stop before).imp_right fun prompted => prompted.append _
    · refine .inr (.inr ?_)
      rw [faults_append]
      exact List.append_ne_nil_of_right_ne_nil _ failed.1
  · intro result returned
    rw [kept] at returned
    obtain ⟨ended, settled⟩ := agrees.joined result returned
    exact ⟨ended, by rw [Session.stepCpu, settled]; exact settled⟩

/-- The result of the two ends of the loops is the verdict on what led to them. -/
theorem outcome_eq_verdict {failure : Option DeviceError} {ended : CpuResult}
    (surface : deviceFailures past = failure.toList) (cpu : CpuAgrees past (.ended ended)) :
    outcome failure ended = verdict past := by
  unfold verdict
  rw [surface]
  cases failure with
  | some failure => rfl
  | none =>
    cases ended with
    | finished =>
      obtain ⟨noFault, noPanic⟩ := cpu
      rw [noFault, noPanic]
      rfl
    | failed fault =>
      rw [cpu.1, cpu.2.2]
      rfl
    | panicked =>
      have panicked : past.any isPanic = true := cpu
      rw [panicked]
      rfl

/-- A step of the surface loop accounts for what it did. -/
theorem stepSurface_agrees (agrees : session.Agrees past) :
    SurfaceAgrees (past ++ session.happenings around .surface)
      (session.stepSurface around).surface := by
  have surface := agrees.surface
  cases phase : session.surface with
  | starting =>
    rw [phase] at surface
    simp only [happenings, stepSurface, phase, List.append_nil]
    exact surface
  | checking loop =>
    rw [phase] at surface
    cases raised : session.console.stop with
    | true =>
      have prompted : Prompted past := by
        rcases agrees.stop raised with settled | prompted
        · simp [phase, SurfacePhase.isOver] at settled
        · exact prompted
      simp only [happenings, stepSurface, phase, raised, if_true, List.append_nil]
      exact ⟨surface, fun _ => prompted⟩
    | false =>
      simp only [happenings, stepSurface, phase, raised]
      exact (deviceFailures_append _ _).trans (by rw [surface]; rfl)
  | polling loop =>
    rw [phase] at surface
    simp only [happenings, stepSurface, phase]
    rcases around.reply session.polls with failure | _ | ⟨host | _⟩
    · refine ⟨deviceFailures_of_none surface _, ?_⟩
      intro absent
      exact absurd absent (Option.some_ne_none failure)
    · exact deviceFailures_of_none surface _
    · exact deviceFailures_of_none surface _
    · exact ⟨deviceFailures_of_none surface _, fun _ => .inl (by simp [isExit])⟩
  | pressing loop host now =>
    rw [phase] at surface
    simp only [happenings, stepSurface, phase, List.append_nil]
    exact surface
  | releasing loop now =>
    rw [phase] at surface
    simp only [happenings, stepSurface, phase, List.append_nil]
    exact surface
  | framing loop now =>
    rw [phase] at surface
    simp only [happenings, stepSurface, phase, List.append_nil]
    cases (loop.snapshot now session.console).2.2 <;> exact surface
  | displaying loop frame =>
    rw [phase] at surface
    simp only [happenings, stepSurface, phase]
    cases around.refusal session.displays with
    | some failure =>
      refine ⟨deviceFailures_of_none surface _, ?_⟩
      intro absent
      exact absurd absent (Option.some_ne_none failure)
    | none => exact deviceFailures_of_none surface _
  | stopping failure =>
    rw [phase] at surface
    simp only [happenings, stepSurface, phase, List.append_nil]
    exact surface
  | joining failure =>
    rw [phase] at surface
    simp only [happenings, stepSurface, phase, List.append_nil]
    cases settled : session.cpu with
    | ended ended =>
      have cpu := agrees.cpu
      rw [settled] at cpu
      refine ⟨outcome_eq_verdict surface.1 cpu, fun ok => surface.2 ?_⟩
      cases failure with
      | none => rfl
      | some failure => simp [outcome] at ok
    | _ =>
      dsimp only
      rw [phase]
      exact surface
  | returned result =>
    simp only [happenings, stepSurface, phase, List.append_nil]
    rwa [phase] at surface

/-- The surface loop is over once it has raised the flag, and stays over. -/
theorem stepSurface_isOver (before : session.surface.isOver = true ∨
    ∃ failure, session.surface = .stopping failure) :
    (session.stepSurface around).surface.isOver = true := by
  cases phase : session.surface with
  | stopping failure => simp [Session.stepSurface, phase, SurfacePhase.isOver]
  | joining failure =>
    cases settled : session.cpu <;> simp [Session.stepSurface, phase, settled, SurfacePhase.isOver]
  | returned result => simp [Session.stepSurface, phase, SurfacePhase.isOver]
  | _ =>
    rw [phase] at before
    rcases before with settled | ⟨failure, stopping⟩
    · simp [SurfacePhase.isOver] at settled
    · simp at stopping

/-- Happenings of the surface loop say nothing about the cpu loop. -/
theorem surface_cpuAgrees {phase : CpuPhase} (agrees : CpuAgrees past phase) :
    CpuAgrees (past ++ session.happenings around .surface) phase := by
  obtain ⟨noCycle, noFault, noPanic⟩ := surface_cycles around session
  unfold CpuAgrees Undisturbed
  rw [faults_append, noFault, List.append_nil, cycleAnswers_append, noCycle, List.append_nil,
    List.any_append, noPanic, Bool.or_false]
  exact agrees

/-- A run returns only after the cpu loop has ended. -/
theorem stepSurface_joined
    (joined : ∀ result, session.surface = .returned result → ∃ ended, session.cpu = .ended ended)
    (result : Except RunError Unit)
    (returned : (session.stepSurface around).surface = .returned result) :
    ∃ ended, session.cpu = .ended ended := by
  cases phase : session.surface with
  | returned earlier => exact joined earlier phase
  | joining failure =>
    cases settled : session.cpu with
    | ended ended => exact ⟨ended, rfl⟩
    | _ => simp [Session.stepSurface, phase, settled] at returned
  | checking loop =>
    cases raised : session.console.stop <;> simp [Session.stepSurface, phase, raised] at returned
  | polling loop =>
    rcases replied : around.reply session.polls with failure | _ | ⟨host | _⟩ <;>
      simp [Session.stepSurface, phase, replied, answered] at returned
  | framing loop now =>
    cases taken : (loop.snapshot now session.console).2.2 <;>
      simp [Session.stepSurface, phase, taken] at returned
  | displaying loop frame =>
    cases refused : around.refusal session.displays <;>
      simp [Session.stepSurface, phase, refused] at returned
  | _ => simp [Session.stepSurface, phase] at returned

/-- A step of the surface loop keeps the session in agreement with its history. -/
theorem Agrees.stepSurface (agrees : session.Agrees past) :
    (session.stepSurface around).Agrees (past ++ session.happenings around .surface) := by
  constructor
  · rw [stepSurface_cpu]
    exact surface_cpuAgrees agrees.cpu
  · exact stepSurface_agrees agrees
  · intro raised
    rcases (stepSurface_stop around session).mp raised with before | exited | ended
    · rcases agrees.stop before with settled | prompted
      · exact .inl (stepSurface_isOver (.inl settled))
      · exact .inr (prompted.append _)
    · exact .inr (.inl (by rw [List.any_append, exited, Bool.or_true]))
    · exact .inl (stepSurface_isOver (.inr ended))
  · intro result returned
    rw [stepSurface_cpu]
    exact stepSurface_joined agrees.joined result returned

/-- Steps of either loop, in any order, keep the session in agreement with its history. -/
theorem Agrees.run (agrees : session.Agrees past) (schedule : List Thread) :
    (session.run around schedule).Agrees (past ++ session.history around schedule) := by
  induction schedule generalizing session past with
  | nil =>
    rw [history, List.append_nil]
    exact agrees
  | cons thread later inductionHypothesis =>
    rw [history, ← List.append_assoc]
    cases thread with
    | cpu => exact inductionHypothesis agrees.stepCpu
    | surface => exact inductionHypothesis agrees.stepSurface

/-- A session starts in agreement with its empty history. -/
theorem start_agrees (paces : Paces) (machine : Machine) : (start paces machine).Agrees [] where
  cpu := ⟨rfl, rfl⟩
  surface := rfl
  stop := fun raised => nomatch raised
  joined := fun _ returned => nomatch returned

/-- The outcome of a run, for any interleaving of its loops.

A run that has returned has both loops ended, and nothing happens any more. Its result is the
verdict on its history: a cycle that failed is never passed over, success means that the user
asked for the end and that no cycle failed, and a fault that is reported is the answer of the
last cycle. Once the stop flag is raised neither loop begins another pass; together they make
at most one more tick, cycle, poll and display call, and either loop ends within a bounded
number of its own steps.

When both loops have ended, the run does return, within two steps, what the two ends call for:
the failure of the surface, else the fault of the cpu loop, else that the worker broke down, else
success. And from a raised flag or an ended surface loop, any run in which both loops go on
taking steps comes to its result. -/
theorem outcome_of_run (around : Surroundings) (machine : Machine) (schedule : List Thread) :
    let session := (start around.paces machine).run around schedule
    let past := (start around.paces machine).history around schedule
    (∀ result, session.result? = some result →
      (∃ ended, session.cpu = .ended ended) ∧
      (∀ later, session.run around later = session ∧ session.history around later = []) ∧
      result = verdict past ∧
      (∀ fault, .cycled (.error fault) ∈ past → result ≠ .ok ()) ∧
      (result = .ok () → .polled (.ok (some .exit)) ∈ past ∧
        ∀ answer, .cycled answer ∈ past → ∃ signal, answer = .ok signal) ∧
      (∀ fault, result = .error (.process fault) →
        (cycleAnswers past).getLast? = some (.error fault))) ∧
    (session.console.stop = true → ∀ later,
      let rest := session.history around later
      rest.countP isPass = 0 ∧ rest.countP isTick ≤ 1 ∧ rest.countP isCycle ≤ 1 ∧
      rest.countP isPoll ≤ 1 ∧ rest.countP isDisplay ≤ 1 ∧
      (3 ≤ later.count .cpu → ∃ ended, (session.run around later).cpu = .ended ended) ∧
      (6 ≤ later.count .surface → (session.run around later).surface.hasEnded = true)) ∧
    (∀ failure ended, session.cpu = .ended ended →
      session.surface = .stopping failure ∨ session.surface = .joining failure →
      ∀ later, 2 ≤ later.count .surface →
        (session.run around later).result? = some (outcome failure ended)) ∧
    (session.console.stop = true ∨ session.surface.hasEnded = true →
      ∀ rounds, Fair rounds → 9 ≤ rounds.length →
        ∃ result, (session.run around rounds.flatten).result? = some result) := by
  intro session past
  have agrees : session.Agrees past := (start_agrees around.paces machine).run schedule
  refine ⟨?_, ?_, fun _ _ => run_returns, ?_⟩
  · intro result isResult
    have returned := result?_eq_some.mp isResult
    obtain ⟨ended, settled⟩ := agrees.joined result returned
    have surface := agrees.surface
    rw [returned] at surface
    obtain ⟨rfl, prompted⟩ := surface
    have cpu := agrees.cpu
    rw [settled] at cpu
    refine ⟨⟨ended, settled⟩, returned_final returned settled, rfl, ?_, ?_, ?_⟩
    · intro fault failed
      exact verdict_of_fault failed
    · intro favourable
      have noFault := (verdict_ok favourable).2.1
      have exited : past.any isExit = true :=
        (prompted favourable).resolve_right fun failed => failed noFault
      exact ⟨exit_mem exited, cycles_succeed noFault⟩
    · intro fault blames
      obtain ⟨first, noPanic⟩ := verdict_process blames
      exact cpu.last_fault first noPanic
  · intro raised later rest
    obtain ⟨passes, ticks, cycles, polls, displays⟩ := run_windsDown around raised later
    obtain ⟨cpuSteps, surfaceSteps⟩ := run_stepsLeft around raised later
    have work := session.cpu.workLeft_le
    have cpuDistance := session.cpu.stepsLeft_le
    have onePoll := session.surface.pollsLeft_le
    have oneDisplay := session.surface.displaysLeft_le
    have surfaceDistance := session.surface.stepsLeft_le
    have ticksMade : (session.history around later).countP isTick ≤ 1 := by omega
    have cyclesMade : (session.history around later).countP isCycle ≤ 1 := by omega
    have pollsMade : (session.history around later).countP isPoll ≤ 1 := by omega
    have displaysMade : (session.history around later).countP isDisplay ≤ 1 := by omega
    refine ⟨passes, ticksMade, cyclesMade, pollsMade, displaysMade, ?_, ?_⟩
    · intro enough
      exact CpuPhase.ended_of_stepsLeft (by omega)
    · intro enough
      exact SurfacePhase.hasEnded_of_stepsLeft (by omega)
  · intro ending rounds fair enough
    have begun : (start around.paces machine).surface.isOver = true →
        (start around.paces machine).console.stop = true := fun isOver => nomatch isOver
    have overRaised : session.surface.isOver = true → session.console.stop = true :=
      run_raised begun schedule
    cases rounds with
    | nil => simp at enough
    | cons round later =>
      obtain ⟨here, behind⟩ := List.forall_mem_cons.mp fair
      have raised : (session.run around round).console.stop = true := by
        rcases ending with raised | hasEnded
        · exact run_stop raised round
        · cases phase : session.surface with
          | stopping failure => exact run_of_stopping phase (here .surface)
          | joining failure | returned result =>
            exact run_stop (overRaised (by rw [phase]; rfl)) round
          | _ => simp [phase, SurfacePhase.hasEnded] at hasEnded
      rw [List.flatten_cons, run_append]
      exact run_returns_fairly raised behind (Nat.le_of_succ_le_succ enough)

/-! ## Runs that return -/

/-- Surroundings in which the user quits at the third poll, and the surface does not fail. -/
def quitting : Surroundings :=
  { promptSurroundings with reply := fun poll => .ok (if poll = 2 then some .exit else none) }

/-- Surroundings in which the surface fails at the third poll. -/
def failing : Surroundings :=
  { promptSurroundings with
    reply := fun poll => if poll = 2 then .error ⟨"gone"⟩ else .ok none }

/-- Surroundings in which nobody takes down the very first record of a cycle. The user quits later. -/
def unrecorded : Surroundings := { quitting with unanswered := fun _ => some 0 }

/-- A machine that returns although nothing was called. -/
def strayMachine : Machine :=
  { drawingMachine with memory := Memory.writeAll ⟨Vector.replicate 4096 0⟩ [(513, 0xEE)] }

/-- Some rounds in which the loops take turns. -/
def turns (rounds : Nat) : List (List Thread) := List.replicate rounds [.cpu, .surface]

/-- Loops that take turns go on both. -/
theorem turns_fair (rounds : Nat) : Fair (turns rounds) := by
  intro round taken thread
  obtain rfl := List.eq_of_mem_replicate taken
  cases thread <;> decide

/-- Some rounds, and then some more. -/
theorem flatten_turns (rounds more : Nat) :
    (turns (rounds + more)).flatten = (turns rounds).flatten ++ (turns more).flatten := by
  rw [turns, ← List.replicate_append_replicate, List.flatten_append]
  rfl

/-- A run returns success where the user quits, and otherwise the fault of a cycle, that the worker broke
down, or the failure of the surface. -/
theorem turns_return :
    let returned (around : Surroundings) (machine : Machine) (rounds : Nat) :=
      ((start around.paces machine).run around (turns rounds).flatten).result?
    returned quitting drawingMachine 22 = some (.ok ()) ∧
      returned promptSurroundings strayMachine 13 = some (.error (.process (.stack .empty))) ∧
      returned unrecorded drawingMachine 21 = some (.error .workerPanicked) ∧
      returned failing drawingMachine 23 = some (.error (.device ⟨"gone"⟩)) := by
  intro returned
  have settles (around : Surroundings) (machine : Machine) (rounds : Nat)
      (raised : ((start around.paces machine).run around (turns rounds).flatten).console.stop = true) :
      returned around machine (rounds + 9) =
        some (verdict ((start around.paces machine).history around (turns (rounds + 9)).flatten)) := by
    obtain ⟨result, isResult⟩ := (outcome_of_run around machine (turns rounds).flatten).2.2.2
      (.inl raised) (turns 9) (turns_fair 9) (by decide)
    rw [← run_append, ← flatten_turns] at isResult
    rw [← ((outcome_of_run around machine _).1 result isResult).2.2.1]
    exact isResult
  refine ⟨?_, ?_, ?_, ?_⟩
  · exact (settles quitting drawingMachine 13 (by decide +kernel)).trans
      (congrArg some (by decide +kernel))
  · exact (settles promptSurroundings strayMachine 4 (by decide +kernel)).trans
      (congrArg some (by decide +kernel))
  · exact (settles unrecorded drawingMachine 12 (by decide +kernel)).trans
      (congrArg some (by decide +kernel))
  · exact (settles failing drawingMachine 14 (by decide +kernel)).trans
      (congrArg some (by decide +kernel))

end Session
end ChipEight
