import ChipEight.Proofs.Session.WindDown

/-!
# How a run returns

When the surface loop has ended, it raises the stop flag and waits for the cpu loop, and when that has
ended too, the run returns what the two ends call for. From then on nothing changes.

A run needs both loops to go on for that, however unevenly. In rounds in which each of them takes a step
at least, nine are enough from where the flag is raised or the surface loop has ended: one raises the
flag, if need be, six bring both loops to their ends, and two are left to find the cpu loop ended.
-/

namespace ChipEight

namespace SurfacePhase

/-- The surface loop has ended and has raised the stop flag. -/
def isOver : SurfacePhase → Bool
  | joining _ | returned _ => true
  | _ => false

end SurfacePhase

/-- Both loops take steps in every round. -/
def Fair (rounds : List (List Thread)) : Prop := ∀ round ∈ rounds, ∀ thread : Thread, thread ∈ round

/-- In fair rounds a loop takes as many steps as there are rounds, or more. -/
theorem Fair.count {rounds : List (List Thread)} (fair : Fair rounds) (thread : Thread) :
    rounds.length ≤ rounds.flatten.count thread := by
  induction rounds with
  | nil => exact Nat.zero_le _
  | cons round later inductionHypothesis =>
    obtain ⟨here, behind⟩ := List.forall_mem_cons.mp fair
    have taken : 1 ≤ round.count thread := List.count_pos_iff.mpr (here thread)
    have more := inductionHypothesis behind
    rw [List.flatten_cons, List.count_append, List.length_cons]
    omega

namespace Session

variable {around : Surroundings} {session : Session} {ended : CpuResult}
  {failure : Option DeviceError} {result : Except RunError Unit}

/-- A session has a result once its surface phase has one. -/
theorem result?_eq_some : session.result? = some result ↔ session.surface = .returned result := by
  unfold result?
  cases session.surface <;> simp

/-- The steps of two schedules are those of the one, and then of the other. -/
theorem run_append (around : Surroundings) (session : Session) (first later : List Thread) :
    session.run around (first ++ later) = (session.run around first).run around later :=
  List.foldl_append

/-- No schedule takes the stop flag down. -/
theorem run_stop (raised : session.console.stop = true) (schedule : List Thread) :
    (session.run around schedule).console.stop = true := by
  induction schedule generalizing session with
  | nil => exact raised
  | cons thread later inductionHypothesis => exact inductionHypothesis (step_stop around raised thread)

/-! ## After the surface loop -/

/-- Where the surface loop is over after a step of its own, it was about to raise the flag, or was over
before. -/
theorem isOver_before (isOver : (session.stepSurface around).surface.isOver = true) :
    session.surface.isOver = true ∨ ∃ failure, session.surface = .stopping failure := by
  cases phase : session.surface with
  | stopping failure => exact .inr ⟨failure, rfl⟩
  | joining failure | returned result => exact .inl rfl
  | checking loop =>
    cases raised : session.console.stop <;>
      simp [stepSurface, phase, raised, SurfacePhase.isOver] at isOver
  | polling loop =>
    rcases replied : around.reply session.polls with failure | _ | ⟨host | _⟩ <;>
      simp [stepSurface, phase, replied, answered, SurfacePhase.isOver] at isOver
  | framing loop now =>
    cases taken : (loop.snapshot now session.console).2.2 <;>
      simp [stepSurface, phase, taken, SurfacePhase.isOver] at isOver
  | displaying loop frame =>
    cases refused : around.refusal session.displays <;>
      simp [stepSurface, phase, refused, SurfacePhase.isOver] at isOver
  | starting | pressing loop host now | releasing loop now =>
    simp [stepSurface, phase, SurfacePhase.isOver] at isOver

/-- Where the surface loop is over, the flag is raised. -/
theorem run_raised (raised : session.surface.isOver = true → session.console.stop = true)
    (schedule : List Thread) (isOver : (session.run around schedule).surface.isOver = true) :
    (session.run around schedule).console.stop = true := by
  induction schedule generalizing session with
  | nil => exact raised isOver
  | cons thread later inductionHypothesis =>
    refine inductionHypothesis (fun isOver => ?_) isOver
    cases thread with
    | cpu =>
      have kept : (session.stepCpu around).surface = session.surface := (stepCpu_kept around session).surface
      exact step_stop around (raised (kept ▸ isOver)) .cpu
    | surface =>
      rcases isOver_before isOver with before | stopping
      · exact step_stop around (raised before) .surface
      · exact (stepSurface_stop around session).mpr (.inr (.inr stopping))

/-- A surface loop that has ended raises the flag with its next step. -/
theorem run_of_stopping (stopping : session.surface = .stopping failure) {round : List Thread}
    (taken : .surface ∈ round) : (session.run around round).console.stop = true := by
  induction round generalizing session with
  | nil => nomatch taken
  | cons thread later inductionHypothesis =>
    cases thread with
    | cpu =>
      have kept : (session.stepCpu around).surface = session.surface := (stepCpu_kept around session).surface
      exact inductionHypothesis (kept.trans stopping) (by simpa using taken)
    | surface =>
      exact run_stop ((stepSurface_stop around session).mpr (.inr (.inr ⟨failure, stopping⟩))) later

/-! ## After both loops -/

/-- Once the cpu loop has ended, only the steps of the surface loop count. -/
theorem run_of_ended (settled : session.cpu = .ended ended) (schedule : List Thread) :
    session.run around schedule =
      session.run around (List.replicate (schedule.count .surface) .surface) := by
  induction schedule generalizing session with
  | nil => rfl
  | cons thread later inductionHypothesis =>
    cases thread with
    | cpu =>
      have idle : session.stepCpu around = session := by rw [stepCpu, settled]
      calc session.run around (.cpu :: later)
          = (session.stepCpu around).run around later := rfl
        _ = session.run around (List.replicate (later.count .surface) .surface) := by
          rw [idle, inductionHypothesis settled]
        _ = session.run around (List.replicate ((Thread.cpu :: later).count .surface) .surface) := by
          rw [List.count_cons_of_ne (by decide)]
    | surface =>
      rw [List.count_cons_self, List.replicate_succ]
      exact inductionHypothesis ((stepSurface_cpu around session).trans settled)

/-- Nothing happens any more once a run has returned. -/
theorem returned_final (returned : session.surface = .returned result)
    (settled : session.cpu = .ended ended) (later : List Thread) :
    session.run around later = session ∧ session.history around later = [] := by
  have still (thread : Thread) :
      session.step around thread = session ∧ session.happenings around thread = [] := by
    cases thread with
    | cpu => exact ⟨by rw [step, stepCpu, settled], by simp only [happenings, settled]⟩
    | surface =>
      exact ⟨by rw [step, Session.stepSurface, returned], by simp only [happenings, returned]⟩
  induction later with
  | nil => exact ⟨rfl, rfl⟩
  | cons thread later inductionHypothesis =>
    obtain ⟨same, nothing⟩ := still thread
    obtain ⟨last, silent⟩ := inductionHypothesis
    refine ⟨?_, ?_⟩
    · calc session.run around (thread :: later)
          = (session.step around thread).run around later := rfl
        _ = session := by rw [same, last]
    · rw [history, same, nothing, silent, List.append_nil]

/-- With both loops ended, a run returns within two steps of the surface loop what their ends call for. -/
theorem run_returns (settled : session.cpu = .ended ended)
    (finished : session.surface = .stopping failure ∨ session.surface = .joining failure)
    {later : List Thread} (enough : 2 ≤ later.count .surface) :
    (session.run around later).result? = some (outcome failure ended) := by
  have joined {session : Session} (settled : session.cpu = .ended ended)
      (joining : session.surface = .joining failure) (more : Nat) :
      (session.run around (List.replicate (more + 1) .surface)).result? =
        some (outcome failure ended) := by
    have returned : (session.stepSurface around).surface = .returned (outcome failure ended) := by
      simp [stepSurface, joining, settled]
    have final : (session.stepSurface around).run around (List.replicate more .surface) =
        session.stepSurface around :=
      (returned_final returned ((stepSurface_cpu around session).trans settled) _).1
    exact result?_eq_some.mpr ((congrArg Session.surface final).trans returned)
  obtain ⟨more, count⟩ := Nat.exists_eq_add_of_le' enough
  rw [run_of_ended settled, count]
  rcases finished with stopping | joining
  · exact joined ((stepSurface_cpu around session).trans settled)
      (by simp [stepSurface, stopping]) more
  · exact joined settled joining (more + 1)

/-- With the flag raised, a run returns within eight fair rounds. -/
theorem run_returns_fairly (raised : session.console.stop = true) {rounds : List (List Thread)}
    (fair : Fair rounds) (enough : 8 ≤ rounds.length) :
    ∃ result, (session.run around rounds.flatten).result? = some result := by
  have split : rounds.flatten = (rounds.take 6).flatten ++ (rounds.drop 6).flatten := by
    rw [← List.flatten_append, List.take_append_drop]
  have first : Fair (rounds.take 6) := fun round taken => fair round (List.mem_of_mem_take taken)
  have last : Fair (rounds.drop 6) := fun round taken => fair round (List.mem_of_mem_drop taken)
  have six : (rounds.take 6).length = 6 := by rw [List.length_take]; omega
  have two : 2 ≤ (rounds.drop 6).length := by rw [List.length_drop]; omega
  obtain ⟨cpuSteps, surfaceSteps⟩ := run_stepsLeft around raised (rounds.take 6).flatten
  have cpuCount := first.count .cpu
  have surfaceCount := first.count .surface
  have cpuDistance := session.cpu.stepsLeft_le
  have surfaceDistance := session.surface.stepsLeft_le
  obtain ⟨ended, settled⟩ : ∃ ended,
      (session.run around (rounds.take 6).flatten).cpu = .ended ended :=
    CpuPhase.ended_of_stepsLeft (by omega)
  have hasEnded : (session.run around (rounds.take 6).flatten).surface.hasEnded = true :=
    SurfacePhase.hasEnded_of_stepsLeft (by omega)
  have more : 2 ≤ (rounds.drop 6).flatten.count .surface := Nat.le_trans two (last.count .surface)
  rw [split, run_append]
  generalize session.run around (rounds.take 6).flatten = after at settled hasEnded
  cases phase : after.surface with
  | stopping failure => exact ⟨_, run_returns settled (.inl phase) more⟩
  | joining failure => exact ⟨_, run_returns settled (.inr phase) more⟩
  | returned result =>
    rw [(returned_final phase settled _).1]
    exact ⟨result, result?_eq_some.mpr phase⟩
  | _ => simp [phase, SurfacePhase.hasEnded] at hasEnded

end Session
end ChipEight
