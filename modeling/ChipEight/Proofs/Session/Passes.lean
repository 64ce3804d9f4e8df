import ChipEight.Proofs.Loop.Frames
import ChipEight.Proofs.Session.Return

/-!
# Passes of one loop alone

Each loop is described twice: by itself, pass by pass, and within a session, step by step, so that
the other loop can come in between. Where nobody comes in between, both descriptions agree. From one look
at the stop flag to the next, the steps of a loop do what its pass does; so a session in which only one
loop takes steps goes through the passes of this loop's own run.

Such a session and such a run are tied by `Mirrors`, once for each loop.
-/

namespace ChipEight

variable {around : Surroundings} {session : Session} {reported : List Notice}

/-- Steps of one loop, and then more of them. -/
theorem Session.run_replicate (around : Surroundings) (session : Session) (thread : Thread)
    (first later : Nat) :
    (session.run around (List.replicate first thread)).run around (List.replicate later thread) =
      session.run around (List.replicate (first + later) thread) := by
  rw [← run_append, List.replicate_append_replicate]

namespace CpuRun

/-- Where the cpu loop of a session is if it has come as far as a run of this loop by itself. -/
def phase (run : CpuRun) : CpuPhase :=
  match run.fault with
  | some fault => .ended (.failed fault)
  | none => .checking run.loop

/-- The cpu loop of a session has come as far as a run of this loop by itself. What was reported before
the run comes first. -/
structure Mirrors (reported : List Notice) (run : CpuRun) (session : Session) : Prop where
  console : session.console = run.console
  readings : session.cpuReadings = run.readings
  journal : session.journal.toList = reported ++ run.journal.toList
  phase : session.cpu = run.phase

variable {clock : Clock} {run : CpuRun}

/-- The next three steps of the cpu loop, or two if nothing is due, are its next pass. -/
theorem Mirrors.turn (mirrors : run.Mirrors reported session)
    (reads : ∀ reading, around.cpuClock reading = some (clock reading))
    (answered : ∀ readings, around.unanswered readings = none) (goesOn : run.fault = none)
    (low : run.console.stop = false) :
    ∃ steps ≤ 3,
      (run.turn clock).Mirrors reported (session.run around (List.replicate steps .cpu)) := by
  obtain ⟨console, readings, journal, phase⟩ := mirrors
  have checking : session.cpu = .checking run.loop := by rw [phase, CpuRun.phase, goesOn]
  have unbroken (session : Session) (loop : CpuLoop) (fired : Fired) :
      session.brokenPass? around loop fired = none := by simp [Session.brokenPass?, answered]
  cases due : (run.nextFired clock).cpu || (run.nextFired clock).timer with
  | true =>
    refine ⟨3, by decide, ?_⟩
    simp only [nextFired] at due
    constructor <;>
      simp [List.replicate, Session.run, Session.step, Session.stepCpu, Session.readCpuClock, checking,
        console, low, reads, readings, due, unbroken, CpuRun.turn, CpuLoop.turn, journal]
    rfl
  | false =>
    refine ⟨2, by decide, ?_⟩
    obtain ⟨noCycle, noTick⟩ := Bool.or_eq_false_iff.mp due
    simp only [nextFired] at noCycle noTick
    constructor <;>
      simp [List.replicate, Session.run, Session.step, Session.stepCpu, Session.readCpuClock, checking,
        console, low, reads, readings, noCycle, noTick, CpuRun.turn, CpuRun.phase, CpuLoop.turn,
        CpuLoop.act, journal]

/-- A session in which only the cpu loop takes steps goes through the passes of this loop by itself, until
one of them fails.

Proof: by induction on the bound. While no pass has failed, nobody has raised the stop flag. -/
theorem Mirrors.finish {bound : Nat} {last : CpuRun} (mirrors : run.Mirrors reported session)
    (reads : ∀ reading, around.cpuClock reading = some (clock reading))
    (answered : ∀ readings, around.unanswered readings = none) (goesOn : run.fault = none)
    (low : run.console.stop = false)
    (finished : run.finish? clock (fun _ => false) bound = some last) :
    ∃ steps, last.Mirrors reported (session.run around (List.replicate steps .cpu)) := by
  induction bound generalizing run session with
  | zero => simp [finish?] at finished
  | succ bound inductionHypothesis =>
    obtain ⟨first, -, next⟩ := mirrors.turn reads answered goesOn low
    rw [finish_succ, if_neg Bool.false_ne_true] at finished
    cases failed : (run.turn clock).fault with
    | some fault =>
      rw [failed, Option.isSome_some, if_pos rfl] at finished
      obtain rfl := Option.some.inj finished
      exact ⟨first, next⟩
    | none =>
      rw [failed, Option.isSome_none, if_neg Bool.false_ne_true] at finished
      have effect := run.turn_effect clock
      have lowStill : (run.turn clock).console.stop = false := by
        have raised : (run.turn clock).console.stop =
            (run.console.stop || (run.turn clock).fault.isSome) := effect.stop
        rw [raised, low, failed]
        rfl
      obtain ⟨later, ends⟩ := inductionHypothesis next failed lowStill finished
      exact ⟨first + later, Session.run_replicate around session .cpu first later ▸ ends⟩

/-- A run of the cpu loop that ends by itself is the run of a session in which only this loop takes
steps. -/
theorem alone_in_session {machine : Machine} {bound : Nat} {last : CpuRun}
    (reads : ∀ reading, around.cpuClock reading = some (clock reading))
    (answered : ∀ readings, around.unanswered readings = none)
    (finished :
      (start around.paces clock ⟨machine, true, false⟩).finish? clock (fun _ => false) bound = some last) :
    ∃ steps, last.Mirrors [.running machine.name around.paces.cpuHertz]
      ((Session.start around.paces machine).run around (List.replicate steps .cpu)) := by
  have started : (start around.paces clock ⟨machine, true, false⟩).Mirrors
      [.running machine.name around.paces.cpuHertz]
      ((Session.start around.paces machine).run around (List.replicate 1 .cpu)) := by
    constructor <;>
      simp [start, phase, Session.start, Session.run, Session.step, Session.stepCpu, Session.readCpuClock,
        reads]
  obtain ⟨steps, ends⟩ := started.finish reads answered rfl rfl finished
  exact ⟨1 + steps, Session.run_replicate around _ .cpu 1 steps ▸ ends⟩

end CpuRun

namespace SurfaceRun

/-- Where the surface loop of a session is if it has come as far as a run of this loop by itself. -/
def phase (run : SurfaceRun) : SurfacePhase :=
  match run.loop with
  | some loop => .checking loop
  | none => .stopping run.failure

/-- A session and a run of the surface loop by itself agree about everything but where the loop is, with
some passes begun. What was reported before the run comes first. -/
structure Accords (reported : List Notice) (passes : Nat) (run : SurfaceRun) (session : Session) :
    Prop where
  console : session.console = run.console
  readings : session.surfaceReadings = run.readings
  displays : session.displays = run.displays
  journal : session.journal.toList = reported ++ run.journal.toList
  polls : run.loop.isSome = true → session.polls = passes
  unfailed : run.loop.isSome = true → run.failure = none
  shown : run.failure = none → session.shown = run.frames.getLast?

/-- The surface loop of a session has come as far as a run of this loop by itself. -/
structure Mirrors (reported : List Notice) (passes : Nat) (run : SurfaceRun) (session : Session) :
    Prop extends Accords reported passes run session where
  phase : session.surface = run.phase

/-- A poll of the surroundings with which nothing else goes on. -/
def quietPoll (around : Surroundings) (pass : Nat) : Poll := ⟨[], around.reply pass⟩

variable {run : SurfaceRun} {passes : Nat} {loop : SurfaceLoop}

/-- What serving the surface makes of a session. -/
def served (around : Surroundings) (session : Session) (loop : SurfaceLoop) (event : Option Char)
    (now : Instant) : Session :=
  let (polled, console, notices, frame) := loop.serve event now session.console
  let told := { session with console, journal := session.journal ++ notices }
  match frame with
  | none => { told with surface := .checking polled }
  | some frame =>
    match around.refusal session.displays with
    | some failure =>
      { told with displays := session.displays + 1, surface := .stopping (some failure) }
    | none =>
      { told with
        displays := session.displays + 1
        shown := some frame
        surface := .checking (polled.shown frame) }

/-- The steps from the release on are a pass in which no key is reported, or after the press. -/
theorem served_of_releasing (around : Surroundings) {now : Instant}
    (phase : session.surface = .releasing loop now) :
    ∃ steps ≤ 3, session.run around (List.replicate steps .surface) =
      served around session loop none now := by
  generalize released : loop.release now session.console = release
  obtain ⟨next, console⟩ := release
  generalize taken : next.snapshot now console = snapshot
  obtain ⟨polled, left, frame⟩ := snapshot
  cases frame with
  | none =>
    refine ⟨2, by decide, ?_⟩
    simp [List.replicate, Session.run, Session.step, Session.stepSurface, phase, released, taken, served,
      SurfaceLoop.serve]
  | some frame =>
    refine ⟨3, by decide, ?_⟩
    cases refused : around.refusal session.displays <;>
      simp [List.replicate, Session.run, Session.step, Session.stepSurface, phase, released, taken,
        served, SurfaceLoop.serve, refused]

/-- So are the steps from the press on. -/
theorem served_of_pressing (around : Surroundings) {host : Char} {now : Instant}
    (phase : session.surface = .pressing loop host now) :
    ∃ steps ≤ 4, session.run around (List.replicate steps .surface) =
      served around session loop (some host) now := by
  have releasing : (session.stepSurface around).surface =
      .releasing (loop.press host now session.console).1 now := by
    simp [Session.stepSurface, phase]
  obtain ⟨steps, few, rest⟩ := served_of_releasing around releasing
  refine ⟨steps + 1, Nat.succ_le_succ few, ?_⟩
  rw [List.replicate_succ]
  refine rest.trans ?_
  simp [Session.stepSurface, phase, served, SurfaceLoop.serve]

/-- Where the user does not quit, the steps behind a poll serve the surface with the reading that follows
the poll. -/
theorem served_of_answered (around : Surroundings) (session : Session) (loop : SurfaceLoop)
    (event : Option Char) :
    let polled := session.answered around loop (event.map .key)
    ∃ steps ≤ 4, polled.run around (List.replicate steps .surface) =
      served around polled loop event (around.surfaceClock session.surfaceReadings) := by
  intro polled
  cases event with
  | none =>
    have releasing : polled.surface =
        .releasing loop (around.surfaceClock session.surfaceReadings) := rfl
    obtain ⟨steps, few, rest⟩ := served_of_releasing around releasing
    exact ⟨steps, Nat.le_succ_of_le few, rest⟩
  | some host =>
    have pressing : polled.surface =
        .pressing loop host (around.surfaceClock session.surfaceReadings) := rfl
    exact served_of_pressing around pressing

/-- So does the pass behind a poll with which nothing else goes on. -/
theorem turn_quietPoll {event : Option Char} (replied : around.reply passes = .ok (event.map .key)) :
    run.turn around.surfaceClock around.refusal loop (quietPoll around passes) =
      { run with
        readings := run.readings + 1
        sights := run.sights.push (.polled run.console.machine.keypad) : SurfaceRun }.serve
          around.refusal loop event (around.surfaceClock run.readings) := by
  cases event <;> simp [SurfaceRun.turn, meanwhile, quietPoll, replied]

/-- Serving the surface in a session is serving it in the run. -/
theorem Accords.served (accords : run.Accords reported passes session) (around : Surroundings)
    (goesOn : run.loop = some loop) (event : Option Char) (now : Instant) :
    (run.serve around.refusal loop event now).Mirrors reported passes
      (served around session loop event now) := by
  obtain ⟨console, readings, displays, journal, polls, unfailed, shown⟩ := accords
  have running : run.loop.isSome = true := by rw [goesOn, Option.isSome_some]
  have fine := unfailed running
  have frames := shown fine
  unfold serve SurfaceRun.served
  rw [console, displays]
  generalize loop.serve event now run.console = pass
  obtain ⟨polled, left, notices, frame⟩ := pass
  cases frame with
  | none =>
    refine ⟨?_, rfl⟩
    constructor <;> simp [readings, journal, polls running, fine, frames, SurfaceRun.frames]
  | some frame =>
    cases refused : around.refusal run.displays <;>
      (refine ⟨?_, by simp [refused, SurfaceRun.phase, SurfaceLoop.shown]⟩; constructor) <;>
      simp [refused, readings, journal, polls running, fine, SurfaceRun.frames, Sight.frame?]

/-- Where the stop flag is down, the next steps of the surface loop are its next pass.

Proof: the look at the flag and the poll come first. Then it depends on the answer whether the loop has
ended, or serves the surface with the reading that follows. -/
theorem Accords.turn (accords : run.Accords reported passes session) (around : Surroundings)
    (goesOn : run.loop = some loop) (checking : session.surface = .checking loop)
    (low : session.console.stop = false) :
    ∃ steps ≤ 6,
      (run.turn around.surfaceClock around.refusal loop (quietPoll around passes)).Mirrors reported
        (passes + 1) (session.run around (List.replicate steps .surface)) := by
  obtain ⟨console, readings, displays, journal, polls, unfailed, shown⟩ := accords
  have running : run.loop.isSome = true := by rw [goesOn, Option.isSome_some]
  have fine := unfailed running
  have frames := shown fine
  have polled : session.run around (List.replicate 2 .surface) =
      ({ session with surface := .polling loop } : Session).stepSurface around := by
    simp [List.replicate, Session.run, Session.step, Session.stepSurface, checking, low]
  rw [← polls running]
  cases replied : around.reply session.polls with
  | error failure =>
    refine ⟨2, by decide, ?_⟩
    have stepped : session.run around (List.replicate 2 .surface) =
        { session with polls := session.polls + 1, surface := .stopping (some failure) } := by
      rw [polled, Session.stepSurface]
      simp [replied]
    rw [stepped]
    refine ⟨?_, ?_⟩
    · constructor <;>
        simp [SurfaceRun.turn, meanwhile, quietPoll, replied, console, readings, displays, journal]
    · simp [SurfaceRun.turn, meanwhile, quietPoll, replied, SurfaceRun.phase]
  | ok event =>
    have answered : session.run around (List.replicate 2 .surface) =
        ({ session with polls := session.polls + 1, surface := .polling loop } : Session).answered around
          loop event := by
      rw [polled, Session.stepSurface]
      simp [replied]
    obtain rfl | ⟨host?, rfl⟩ : event = some .exit ∨ ∃ host?, event = Option.map .key host? := by
      rcases event with _ | ⟨host | _⟩
      · exact .inr ⟨none, rfl⟩
      · exact .inr ⟨some host, rfl⟩
      · exact .inl rfl
    · refine ⟨2, by decide, ?_⟩
      rw [answered]
      refine ⟨?_, ?_⟩
      · constructor <;>
          simp [SurfaceRun.turn, meanwhile, quietPoll, replied, Session.answered, console, readings,
            displays, journal, frames, SurfaceRun.frames, Sight.frame?]
      · simp [SurfaceRun.turn, meanwhile, quietPoll, replied, Session.answered, SurfaceRun.phase, fine]
    · -- The surface is served with what the poll has left.
      obtain ⟨steps, few, rest⟩ := served_of_answered around
        { session with polls := session.polls + 1, surface := .polling loop } loop host?
      have asked : { run with
            readings := run.readings + 1
            sights := run.sights.push (.polled run.console.machine.keypad) : SurfaceRun }.Accords reported
          (session.polls + 1)
          (({ session with polls := session.polls + 1, surface := .polling loop } : Session).answered
            around loop (Option.map .key host?)) := by
        cases host? <;> constructor <;>
          simp [Session.answered, console, readings, displays, journal, fine, frames, SurfaceRun.frames,
            Sight.frame?]
      have mirrors := asked.served around goesOn host? (around.surfaceClock run.readings)
      refine ⟨2 + steps, by omega, ?_⟩
      rw [← Session.run_replicate, answered, rest, turn_quietPoll replied]
      rwa [readings] at mirrors ⊢

/-- The next steps of the surface loop are its next pass, or lead it to its end. -/
theorem Mirrors.step (mirrors : run.Mirrors reported passes session) (around : Surroundings) :
    ∃ steps ≤ 6, (run.step around.surfaceClock around.refusal (quietPoll around passes)).Mirrors reported
      (passes + 1) (session.run around (List.replicate steps .surface)) := by
  obtain ⟨accords, phase⟩ := mirrors
  cases goesOn : run.loop with
  | none =>
    have ended : run.step around.surfaceClock around.refusal (quietPoll around passes) = run := by
      simp [SurfaceRun.step, goesOn]
    rw [ended]
    exact ⟨0, Nat.zero_le _, { accords with polls := by simp [goesOn] }, phase⟩
  | some loop =>
    have checking : session.surface = .checking loop := by rw [phase, SurfaceRun.phase, goesOn]
    have console := accords.console
    cases stop : run.console.stop with
    | true =>
      have ended : run.step around.surfaceClock around.refusal (quietPoll around passes) =
          { run with loop := none } := by simp [SurfaceRun.step, goesOn, stop]
      have stepped : session.run around (List.replicate 1 .surface) =
          { session with surface := .stopping none } := by
        simp [List.replicate, Session.run, Session.step, Session.stepSurface, checking, console, stop]
      have fine : run.failure = none := accords.unfailed (by rw [goesOn, Option.isSome_some])
      refine ⟨1, by decide, ?_⟩
      rw [ended, stepped]
      exact ⟨{ accords with polls := by simp, unfailed := by simp }, by rw [SurfaceRun.phase, fine]⟩
    | false =>
      have turned : run.step around.surfaceClock around.refusal (quietPoll around passes) =
          run.turn around.surfaceClock around.refusal loop (quietPoll around passes) := by
        simp [SurfaceRun.step, goesOn, stop]
      rw [turned]
      exact accords.turn around goesOn checking (by rw [console, stop])

/-- A run of the surface loop in which nobody else acts is the run of a session in which only this loop
takes steps.

Proof: by induction on the polls. The first step of the session is the clock reading before them. -/
theorem alone_in_session (around : Surroundings) (machine : Machine) (polls : Nat) :
    ∃ steps,
      (against around.paces around.surfaceClock around.refusal ⟨machine, true, false⟩
        ((List.range polls).map (quietPoll around))).Mirrors [.running machine.name around.paces.cpuHertz]
        polls ((Session.start around.paces machine).run around (List.replicate steps .surface)) := by
  induction polls with
  | zero =>
    refine ⟨1, ⟨?_, rfl⟩⟩
    constructor <;> simp [against, start, Session.start, Session.run, Session.step, Session.stepSurface,
      SurfaceRun.frames]
  | succ polls inductionHypothesis =>
    obtain ⟨earlier, mirrors⟩ := inductionHypothesis
    obtain ⟨steps, -, next⟩ := mirrors.step around
    refine ⟨earlier + steps, ?_⟩
    rw [List.range_succ, List.map_append, List.map_singleton, against_concat,
      ← Session.run_replicate]
    exact next

end SurfaceRun
end ChipEight
