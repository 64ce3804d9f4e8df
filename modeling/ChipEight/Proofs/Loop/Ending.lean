import ChipEight.Proofs.Loop.Frames
import Mathlib.Control.Monad.Basic

/-!
# How the surface loop ends

The surface loop can end at four places of a pass: at its top, where the stop flag is up; at the poll,
which fails; after the poll, where the user quits; and at the display call, which fails. A pass
comes to these places in this order, and each of them leaves another part of the pass undone. So
`PassEnd` does not only name the cause but says what the pass leaves, in the words of the run before
it. The guards of its cases exclude each other: where a cause is found, no later one counts.

The laws about whole runs follow from the one about a pass. `Tally` is the invariant that carries
them: it ties the polls and the clock readings of a run to the script.
-/

namespace ChipEight

/-- Why the surface loop ends. -/
inductive SurfaceEnd
  /-- The stop flag was found raised. -/
  | stopSeen
  /-- The surface failed to answer a poll. -/
  | pollFailed (failure : DeviceError)
  /-- The user wants to quit. -/
  | exitAsked
  /-- The surface failed to show a frame. -/
  | displayFailed (failure : DeviceError)
  deriving DecidableEq, Repr

/-- What the loop ends with. -/
def SurfaceEnd.result : SurfaceEnd → Except DeviceError Unit
  | stopSeen | exitAsked => .ok ()
  | pollFailed failure | displayFailed failure => .error failure

/-- Whether the surface answers a poll. -/
def Poll.isAnswered (poll : Poll) : Bool :=
  match poll.reply with
  | .ok _ => true
  | .error _ => false

/-- Whether a sight is a poll. -/
def Sight.isPoll : Sight → Bool
  | polled _ => true
  | displayed _ => false

/-- Between the press and the display call only keys move, and a due frame takes the redraw flag
down. A picture is only taken if one is due, and it is one of the present. -/
theorem SurfaceLoop.release_snapshot (loop : SurfaceLoop) (now : Instant) (console : Console) :
    ∃ polled keypad due picture,
      (loop.release now console).1.snapshot now (loop.release now console).2 =
        (polled,
          { console with
            machine := { console.machine with keypad }
            redraw := console.redraw && !due }, picture) ∧
      ∀ frame ∈ picture, due = true ∧ frame = console.frame := by
  obtain ⟨keypad, released⟩ := loop.release_console now console
  rw [snapshot_effect, released]
  refine ⟨_, keypad, _, _, rfl, fun frame isTaken => ?_⟩
  split at isTaken
  case isTrue shows => exact ⟨shows.1, (Option.mem_some.mp isTaken).symm⟩
  case isFalse => exact absurd isTaken (by simp)

namespace SurfaceRun

/-- What the loop ended with, if it has ended. -/
def result? (run : SurfaceRun) : Option (Except DeviceError Unit) :=
  match run.loop, run.failure with
  | some _, _ => none
  | none, none => some (.ok ())
  | none, some failure => some (.error failure)

/-- How often the surface was polled. -/
def polls (run : SurfaceRun) : Nat := run.sights.toList.countP Sight.isPoll

/-- The console as a pass finds it, before it changes anything itself. A pass that ends at its top
does not wait for what others do during a poll. -/
def found (run : SurfaceRun) (poll : Poll) : Console :=
  if run.console.stop then run.console else poll.moment run.console

/-- What becomes of a run once its poll was answered and the clock was read. Keys may move, a due
frame takes the redraw flag down, and the surface may be given a picture of the present. -/
inductive ServeEnd (refusal : Nat → Option DeviceError) (run : SurfaceRun) :
    Option SurfaceEnd → SurfaceRun → Prop
  | undisplayed (loop : SurfaceLoop) (keypad : Keypad) (due : Bool) (journal : Array Notice) :
      ServeEnd refusal run none
        { run with
          loop := some loop
          console :=
            { run.console with
              machine := { run.console.machine with keypad }
              redraw := run.console.redraw && !due }
          journal }
  | displayed (loop : SurfaceLoop) (keypad : Keypad) (journal : Array Notice)
      (accepted : refusal run.displays = none) :
      ServeEnd refusal run none
        { run with
          loop := some loop
          console := { run.console with machine := { run.console.machine with keypad }, redraw := false }
          displays := run.displays + 1
          sights := run.sights.push (.displayed run.console.frame)
          journal }
  | refused (keypad : Keypad) (failure : DeviceError) (journal : Array Notice)
      (refused : refusal run.displays = some failure) :
      ServeEnd refusal run (some (.displayFailed failure))
        { run with
          loop := none
          console := { run.console with machine := { run.console.machine with keypad }, redraw := false }
          displays := run.displays + 1
          failure := some failure
          sights := run.sights.push (.displayed run.console.frame)
          journal }

/-- What becomes of a run in a pass. A stop flag that is up ends it before anything else happens. A
poll that fails keeps what others did meanwhile, but the clock is not read. If the user quits, the
clock was read and the flag is raised, but no key is released and no frame is shown. Otherwise the
surface is served. -/
inductive PassEnd (refusal : Nat → Option DeviceError) (run : SurfaceRun) (poll : Poll) :
    Option SurfaceEnd → SurfaceRun → Prop
  | stopSeen (raised : run.console.stop = true) :
      PassEnd refusal run poll (some .stopSeen) { run with loop := none }
  | pollFailed (failure : DeviceError) (journal : Array Notice)
      (unstopped : run.console.stop = false) (failed : poll.reply = .error failure) :
      PassEnd refusal run poll (some (.pollFailed failure))
        { run with
          loop := none
          console := poll.moment run.console
          failure := some failure
          sights := run.sights.push (.polled run.console.machine.keypad)
          journal }
  | exitAsked (journal : Array Notice)
      (unstopped : run.console.stop = false) (asked : poll.reply = .ok (some .exit)) :
      PassEnd refusal run poll (some .exitAsked)
        { run with
          loop := none
          console := (poll.moment run.console).raiseStop
          readings := run.readings + 1
          sights := run.sights.push (.polled run.console.machine.keypad)
          journal }
  | served (ending? : Option SurfaceEnd) (after : SurfaceRun) (journal : Array Notice)
      (serves : run.Serves poll)
      (served : ServeEnd refusal
        { run with
          console := poll.moment run.console
          readings := run.readings + 1
          sights := run.sights.push (.polled run.console.machine.keypad)
          journal } ending? after) :
      PassEnd refusal run poll ending? after

variable {clock : Clock} {refusal : Nat → Option DeviceError} {run after : SurfaceRun} {poll : Poll}
  {ending? : Option SurfaceEnd}

/-- Serving the surface where no key is reported ends in one of three ways. -/
theorem serve_unreported_end (refusal : Nat → Option DeviceError) (run : SurfaceRun)
    (loop : SurfaceLoop) (now : Instant) :
    ∃ ending?, ServeEnd refusal run ending? (run.serve refusal loop none now) := by
  obtain ⟨polled, keypad, due, picture, taken, present⟩ := loop.release_snapshot now run.console
  cases picture with
  | none =>
    exact ⟨none, by
      simpa [serve, SurfaceLoop.serve, taken] using .undisplayed polled keypad due run.journal⟩
  | some frame =>
    obtain ⟨rfl, rfl⟩ := present frame rfl
    cases refused : refusal run.displays with
    | none =>
      exact ⟨none, by
        simpa [serve, SurfaceLoop.serve, taken, refused] using
          .displayed (polled.shown run.console.frame) keypad run.journal refused⟩
    | some failure =>
      exact ⟨some (.displayFailed failure), by
        simpa [serve, SurfaceLoop.serve, taken, refused] using
          .refused keypad failure run.journal refused⟩

/-- A press before the serving moves only keys. -/
theorem ServeEnd.of_pressed {keypad : Keypad} {journal : Array Notice}
    (served : ServeEnd refusal
      { run with
        console := { run.console with machine := { run.console.machine with keypad } }
        journal } ending? after) :
    ServeEnd refusal run ending? after := by
  cases served with
  | undisplayed loop keypad due journal => exact .undisplayed loop keypad due journal
  | displayed loop keypad journal accepted => exact .displayed loop keypad journal accepted
  | refused keypad failure journal refused => exact .refused keypad failure journal refused

/-- Serving the surface ends in one of three ways. -/
theorem serve_end (refusal : Nat → Option DeviceError) (run : SurfaceRun) (loop : SurfaceLoop)
    (event : Option Char) (now : Instant) :
    ∃ ending?, ServeEnd refusal run ending? (run.serve refusal loop event now) := by
  cases event with
  | none => exact serve_unreported_end refusal run loop now
  | some host =>
    obtain ⟨keypad, pressed⟩ := loop.press_console host now run.console
    rw [serve_reported, pressed]
    obtain ⟨ending?, served⟩ := serve_unreported_end refusal
      { run with
        console := { run.console with machine := { run.console.machine with keypad } }
        journal := run.journal ++ (loop.press host now run.console).2.2 }
      (loop.press host now run.console).1 now
    exact ⟨ending?, served.of_pressed⟩

/-- Every pass of a running loop ends in one of the ways above. -/
theorem step_end (clock : Clock) (refusal : Nat → Option DeviceError) (poll : Poll)
    (running : run.loop.isSome = true) :
    ∃ ending?, PassEnd refusal run poll ending? (run.step clock refusal poll) := by
  by_cases serves : run.Serves poll
  · obtain ⟨loop, event, journal, _, served⟩ := step_serve clock refusal serves
    rw [served]
    obtain ⟨ending?, ends⟩ := serve_end refusal _ loop event (clock run.readings)
    exact ⟨ending?, .served ending? _ journal serves ends⟩
  · obtain ⟨loop, present⟩ := Option.isSome_iff_exists.mp running
    cases stop : run.console.stop with
    | true => exact ⟨_, by simpa [step, present, stop] using PassEnd.stopSeen stop⟩
    | false =>
      have turned : run.step clock refusal poll = run.turn clock refusal loop poll := by
        simp [step, present, stop]
      obtain ⟨journal, polled⟩ := meanwhile_effect
        { run with sights := run.sights.push (.polled run.console.machine.keypad) } poll
      rw [turned]
      cases replied : poll.reply with
      | error failure =>
        refine ⟨some (.pollFailed failure), ?_⟩
        simpa [turn, replied, polled] using PassEnd.pollFailed failure journal stop replied
      | ok event =>
        obtain rfl : event = some .exit := by
          by_contra stays
          exact serves ⟨running, stop, event, replied, stays⟩
        refine ⟨some .exitAsked, ?_⟩
        simpa [turn, replied, polled] using
          PassEnd.exitAsked (journal.push .exitRequested) stop replied

/-- What serving ends with, and what it leaves alone. -/
theorem ServeEnd.effect (served : ServeEnd refusal run ending? after) :
    after.result? = ending?.map SurfaceEnd.result ∧
      (∃ keypad, after.console.machine = { run.console.machine with keypad }) ∧
      after.console.stop = run.console.stop ∧
      after.readings = run.readings ∧ after.polls = run.polls ∧
      (ending? = none → after.failure = run.failure) ∧
      ∀ ending ∈ ending?, ∃ failure, ending = .displayFailed failure := by
  cases served with
  | undisplayed loop keypad due journal =>
    exact ⟨rfl, ⟨keypad, rfl⟩, rfl, rfl, rfl, fun _ => rfl, by simp⟩
  | displayed loop keypad journal accepted =>
    exact ⟨rfl, ⟨keypad, rfl⟩, rfl, rfl, by simp [polls, Sight.isPoll], fun _ => rfl, by simp⟩
  | refused keypad failure journal refused =>
    exact ⟨rfl, ⟨keypad, rfl⟩, rfl, rfl, by simp [polls, Sight.isPoll], by simp, by simp⟩

/-- What a pass ends with, and what it changes. Only a user who quits makes it raise the stop flag. -/
structure PassEffect (run : SurfaceRun) (poll : Poll) (ending? : Option SurfaceEnd)
    (after : SurfaceRun) : Prop where
  result : after.result? = ending?.map SurfaceEnd.result
  unfailed : ending? = none → after.failure = none
  machine : ∃ keypad, after.console.machine = { (run.found poll).machine with keypad }
  stop : after.console.stop = ((run.found poll).stop || decide (ending? = some .exitAsked))
  raised : ending? = some .stopSeen → (run.found poll).stop = true
  counts : (ending? = some .stopSeen ∧ after.polls = run.polls ∧ after.readings = run.readings) ∨
    after.polls = run.polls + 1 ∧ after.readings = run.readings + if poll.isAnswered then 1 else 0

/-- The ways in which a pass ends have these effects. -/
theorem PassEnd.effect (ends : PassEnd refusal run poll ending? after) (unfailed : run.failure = none) :
    PassEffect run poll ending? after := by
  have polledOnce (keypad : Keypad) :
      (run.sights.push (.polled keypad)).toList.countP Sight.isPoll = run.polls + 1 := by
    simp [polls, Sight.isPoll]
  cases ends with
  | stopSeen raised =>
    have found : run.found poll = run.console := by simp [found, raised]
    constructor
    case result => simp [result?, unfailed, SurfaceEnd.result]
    case unfailed => simp
    case machine => exact ⟨run.console.machine.keypad, by rw [found]⟩
    case stop => simp [found]
    case raised => simp [found, raised]
    case counts => exact .inl ⟨rfl, rfl, rfl⟩
  | pollFailed failure journal unstopped failed =>
    have found : run.found poll = poll.moment run.console := by simp [found, unstopped]
    constructor
    case result => rfl
    case unfailed => simp
    case machine => exact ⟨(poll.moment run.console).machine.keypad, by rw [found]⟩
    case stop => simp [found]
    case raised => simp
    case counts => exact .inr ⟨polledOnce _, by simp [Poll.isAnswered, failed]⟩
  | exitAsked journal unstopped asked =>
    have found : run.found poll = poll.moment run.console := by simp [found, unstopped]
    constructor
    case result => simp [result?, unfailed, SurfaceEnd.result]
    case unfailed => simp
    case machine => exact ⟨(poll.moment run.console).machine.keypad, by rw [found]; rfl⟩
    case stop => simp [Console.raiseStop]
    case raised => simp
    case counts => exact .inr ⟨polledOnce _, by simp [Poll.isAnswered, asked]⟩
  | served _ _ journal serves served =>
    have found : run.found poll = poll.moment run.console := by simp [found, serves.unstopped]
    obtain ⟨event, replied, _⟩ := serves.served
    obtain ⟨result, machine, stop, readings, polls, failure, refused⟩ := served.effect
    constructor
    case result => exact result
    case unfailed => exact fun goesOn => (failure goesOn).trans unfailed
    case machine => rw [found]; exact machine
    case stop =>
      have notAsked : ending? ≠ some .exitAsked := fun asked => by simpa using refused _ asked
      simp [stop, found, notAsked]
    case raised => exact fun seen => by simpa using refused _ seen
    case counts =>
      exact .inr ⟨polls.trans (polledOnce _), by simp [readings, Poll.isAnswered, replied]⟩

/-- What is known of a run after the polls of a script. -/
structure Tally (script : List Poll) (run : SurfaceRun) : Prop where
  unfailed : run.loop.isSome = true → run.failure = none
  unended : run.loop.isSome = true → run.polls = script.length
  polls_le : run.polls ≤ script.length
  readings : run.readings = 1 + (script.take run.polls).countP Poll.isAnswered
  stopped : run.result? = some (.ok ()) → run.console.stop = true

/-- A run has no result while its loop goes on. -/
theorem result?_eq_none : run.result? = none ↔ run.loop.isSome = true := by
  unfold result?
  cases run.loop with
  | some loop => simp
  | none => cases run.failure <;> simp

/-- A loop that has ended makes no more passes. -/
theorem step_of_ended (ended : run.result? ≠ none) (poll : Poll) :
    run.step clock refusal poll = run := by
  rw [ne_eq, result?_eq_none, Option.not_isSome_iff_eq_none] at ended
  simp [step, ended]

/-- Any pass keeps what is known. -/
theorem Tally.step {script : List Poll} (tally : run.Tally script) (clock : Clock)
    (refusal : Nat → Option DeviceError) (poll : Poll) :
    (run.step clock refusal poll).Tally (script ++ [poll]) := by
  by_cases running : run.result? = none
  · have goesOn := result?_eq_none.mp running
    obtain ⟨ending?, ends⟩ := step_end clock refusal poll goesOn
    have effect := ends.effect (tally.unfailed goesOn)
    -- A loop that goes on has made a poll for every entry, so the prefix it counts is the whole script.
    have all : run.polls = script.length := tally.unended goesOn
    have before : run.readings = 1 + script.countP Poll.isAnswered := by
      rw [tally.readings, all, List.take_length]
    have unended (stillOn : (run.step clock refusal poll).loop.isSome = true) : ending? = none := by
      simpa [effect.result] using result?_eq_none.mpr stillOn
    constructor
    case unfailed => exact fun stillOn => effect.unfailed (unended stillOn)
    case unended =>
      intro stillOn
      rcases effect.counts with ⟨seen, _⟩ | ⟨polls, _⟩
      · simp [unended stillOn] at seen
      · simp [polls, all]
    case polls_le =>
      rcases effect.counts with ⟨_, polls, _⟩ | ⟨polls, _⟩ <;> simp [polls, all]
    case readings =>
      rcases effect.counts with ⟨_, polls, readings⟩ | ⟨polls, readings⟩
      · simp [polls, readings, all, before]
      · rw [polls, readings, all, before, List.take_of_length_le (by simp), List.countP_append,
          List.countP_singleton, Nat.add_assoc]
    case stopped =>
      intro fine
      rw [effect.stop]
      rw [effect.result] at fine
      -- Two of the four causes are no failures: one finds the flag up, the other raises it.
      rcases ending? with _ | _ | _ | _ | _
      case some.stopSeen => simp [effect.raised rfl]
      case some.exitAsked => simp
      all_goals simp [SurfaceEnd.result] at fine
  · rw [step_of_ended running]
    have ended := mt result?_eq_none.mpr running
    constructor
    case unfailed => exact fun goesOn => absurd goesOn ended
    case unended => exact fun goesOn => absurd goesOn ended
    case polls_le => exact tally.polls_le.trans (by simp)
    case readings => rw [List.take_append_of_le_length tally.polls_le, tally.readings]
    case stopped => exact tally.stopped

/-- Every run is known to this extent. -/
theorem against_tally (paces : Paces) (clock : Clock) (refusal : Nat → Option DeviceError)
    (console : Console) (script : List Poll) :
    (against paces clock refusal console script).Tally script := by
  induction script using List.reverseRecOn with
  | nil =>
    constructor
    case stopped => exact nofun
    all_goals simp [against, start, polls]
  | append_singleton earlier poll inductionHypothesis =>
    rw [against_concat]
    exact inductionHypothesis.step clock refusal poll

/-- Whatever polls follow, a loop that has ended stays as it is. -/
theorem against_append_of_ended {paces : Paces} {console : Console} {script : List Poll}
    (ended : (against paces clock refusal console script).result? ≠ none) (later : List Poll) :
    against paces clock refusal console (script ++ later) =
      against paces clock refusal console script := by
  induction later using List.reverseRecOn with
  | nil => rw [List.append_nil]
  | append_singleton earlier poll inductionHypothesis =>
    rw [← List.append_assoc, against_concat, inductionHypothesis, step_of_ended ended]

/-- A pass ends the loop if the user quits in it. -/
theorem PassEnd.of_exit (ends : PassEnd refusal run .exit ending? after) : ending?.isSome = true := by
  cases ends with
  | stopSeen | pollFailed | exitAsked => rfl
  | served _ _ _ serves _ =>
    obtain ⟨event, replied, stays⟩ := serves.served
    exact absurd (Except.ok.inj replied).symm stays

/-- A run has ended once the user has quit. -/
theorem finish_ends (paces : Paces) (clock : Clock) (refusal : Nat → Option DeviceError)
    (console : Console) (script : List Poll) :
    ((start paces clock console).finish clock refusal script).result?.isSome = true := by
  have same : (start paces clock console).finish clock refusal script =
      (against paces clock refusal console script).step clock refusal .exit := against_concat .exit
  rw [same]
  by_cases running : (against paces clock refusal console script).result? = none
  · have goesOn := result?_eq_none.mp running
    obtain ⟨ending?, ends⟩ := step_end clock refusal .exit goesOn
    rw [(ends.effect ((against_tally paces clock refusal console script).unfailed goesOn)).result]
    simpa using ends.of_exit
  · rw [step_of_ended running]
    exact Option.isSome_iff_ne_none.mpr running

/-- How the surface loop ends.

A pass of a running loop ends in one of the ways of `PassEnd`: with the first cause it comes to, and
having done no more than what comes before this cause. Of the machine it changes the keys at
most, and if the surface fails, the stop flag is as others have left it. Once the loop has ended, it
stays as it is, and if the user quits after a script, it ends. If it ends without a failure, the stop
flag is up. The clock is read once at the start and once for every poll that was answered. -/
theorem surface_ends_at_first_cause (paces : Paces) (clock : Clock)
    (refusal : Nat → Option DeviceError) (console : Console) (script : List Poll) :
    let run := against paces clock refusal console script
    (run.result? = none → ∀ poll,
      let after := against paces clock refusal console (script ++ [poll])
      ∃ ending?, PassEnd refusal run poll ending? after ∧
        after.result? = ending?.map SurfaceEnd.result ∧
        (∃ keypad, after.console.machine = { (run.found poll).machine with keypad }) ∧
        ∀ failure, after.result? = some (.error failure) →
          after.console.stop = (run.found poll).stop) ∧
    (run.result? ≠ none → ∀ later, against paces clock refusal console (script ++ later) = run) ∧
    ((start paces clock console).finish clock refusal script).result?.isSome = true ∧
    (run.result? = some (.ok ()) → run.console.stop = true) ∧
    run.polls ≤ script.length ∧
    run.readings = 1 + (script.take run.polls).countP Poll.isAnswered := by
  intro run
  have tally : run.Tally script := against_tally paces clock refusal console script
  refine ⟨?_, against_append_of_ended, finish_ends paces clock refusal console script, tally.stopped,
    tally.polls_le, tally.readings⟩
  intro running poll after
  have stepped : after = run.step clock refusal poll := against_concat poll
  rw [stepped]
  have goesOn := result?_eq_none.mp running
  obtain ⟨ending?, ends⟩ := step_end clock refusal poll goesOn
  have effect := ends.effect (tally.unfailed goesOn)
  refine ⟨ending?, ends, effect.result, effect.machine, ?_⟩
  intro failure failed
  have notAsked : ending? ≠ some .exitAsked := by
    rintro rfl
    simp [effect.result, SurfaceEnd.result] at failed
  simp [effect.stop, notAsked]

/-- A surface that shows nothing. -/
def refusesFrames : Nat → Option DeviceError := fun _ => some ⟨"no display"⟩

/-- The first frame is due in the second pass. It is refused, so that the loop ends there, with the stop
flag down, and no later poll is made. -/
theorem refused_frame_ends_loop :
    let run := against {} coarseClock refusesFrames ⟨Session.drawingMachine, true, false⟩
    let last := run ([idlePoll] ++ [idlePoll])
    (run [idlePoll]).result? = none ∧ last.result? = some (.error ⟨"no display"⟩) ∧
      last.console.stop = false ∧ last.frames = [⟨.blank, false⟩] ∧ last.readings = 3 ∧
      ∀ later, run ([idlePoll] ++ [idlePoll] ++ later) = last := by
  intro run last
  have running : (run [idlePoll]).result? = none := by decide +kernel
  have failed : last.result? = some (.error ⟨"no display"⟩) := by decide +kernel
  obtain ⟨_, _, _, _, left⟩ :=
    (surface_ends_at_first_cause {} coarseClock refusesFrames _ [idlePoll]).1 running idlePoll
  obtain ⟨_, ended, _, _, polls, readings⟩ :=
    surface_ends_at_first_cause {} coarseClock refusesFrames ⟨Session.drawingMachine, true, false⟩
      ([idlePoll] ++ [idlePoll])
  have made : last.polls = 2 := by decide +kernel
  refine ⟨running, failed, (left _ failed).trans (by decide +kernel), by decide +kernel, ?_, ?_⟩
  · rw [readings, made]
    rfl
  · exact ended (by rw [failed]; nofun)

end SurfaceRun
end ChipEight
