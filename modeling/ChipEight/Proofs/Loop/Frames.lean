import ChipEight.Proofs.Loop.CpuFold
import ChipEight.Proofs.Session.Redraw
import Mathlib.Data.List.Infix

/-!
# Which frames are shown

Whether a pass of the surface loop shows a frame depends on the passes before it in three ways:
through the mark of the frame ticker, through the redraw flag, and through the tone of the frame
shown last. The first and the last are known from outside. A ticker of our own that is polled with
the reading of every pass fires when the loop's does, and the tone can be read off the frames that
the surface was given; the invariant `Tracks` says that the loop remembers just this.

Between the answer of the surface and the picture only keys move. So a pass can be described by
the console once the surface has answered, which `Poll.moment` is. From one pass follow the
two laws about several: a raised flag stays up until a frame is due, and after a due frame nothing
is shown while nobody raises the flag and the tone stays.
-/

namespace ChipEight

/-- The picture of the present. -/
def Console.frame (console : Console) : Frame := ⟨console.machine.screen, console.machine.isBeeping⟩

/-- Whether there is something to show after a frame in which the tone sounded, or did not. -/
def Console.IsNews (console : Console) (shownBeep : Bool) : Prop :=
  console.redraw = true ∨ console.machine.isBeeping ≠ shownBeep

/-- There either is something to show or not. -/
instance (console : Console) (shownBeep : Bool) : Decidable (console.IsNews shownBeep) :=
  inferInstanceAs (Decidable (_ ∨ _))

/-- The ticker for frames, before the first poll. -/
def Paces.frameTicker (paces : Paces) (clock : Clock) : Ticker :=
  ⟨.ofHertz paces.frameHertz, clock 0⟩

/-- Whether a frame is due in a pass, by a ticker that knows nothing of the loop. -/
def frameDue (paces : Paces) (clock : Clock) (pass : Nat) : Bool :=
  (((paces.frameTicker clock).after (clock.pollTimes pass)).fire (clock (pass + 1))).2

/-- The frame the surface was given. -/
def Sight.frame? : Sight → Option Frame
  | polled _ => none
  | displayed frame => some frame

/-- Whether the tone sounded in the last of some frames. Before the first one it counts as silent. -/
def lastBeep (frames : List Frame) : Bool := (frames.getLast?.map Frame.beeping).getD false

/-- The last of some frames is the one that was added last. -/
theorem lastBeep_concat (frames : List Frame) (frame : Frame) :
    lastBeep (frames ++ [frame]) = frame.beeping := by
  simp [lastBeep]

/-- The console once the surface has answered a poll. -/
def Poll.moment (poll : Poll) (console : Console) : Console :=
  poll.meanwhile.foldl (fun console (activity : Activity) => activity.act console) console

/-- While a surface is polled, the redraw flag can be raised but not taken down. -/
theorem Poll.moment_redraw {console : Console} (poll : Poll) (raised : console.redraw = true) :
    (poll.moment console).redraw = true := by
  unfold moment
  induction poll.meanwhile generalizing console with
  | nil => exact raised
  | cons activity later inductionHypothesis =>
    refine inductionHypothesis ?_
    cases activity with
    | cycle => simp [Activity.act, Console.cycle, raised]
    | tick => exact raised
    | raiseStop => exact raised

namespace SurfaceLoop

variable (loop : SurfaceLoop) (now : Instant) (console : Console)

/-- Pressing is no business of the frames. -/
theorem press_frames (host : Char) :
    (loop.press host now console).1.ticker = loop.ticker ∧
      (loop.press host now console).1.shownBeep = loop.shownBeep := by
  unfold press
  cases found : Key.ofChar? host with
  | none => exact ⟨rfl, rfl⟩
  | some key => cases isNew : (loop.latch.press key now).2 <;> simp [isNew]

/-- Nor is releasing. -/
theorem release_frames :
    (loop.release now console).1.ticker = loop.ticker ∧
      (loop.release now console).1.shownBeep = loop.shownBeep := by
  simp [release]

/-- A frame is taken if one is due and there is something to show. A due frame takes the redraw
flag down. -/
theorem snapshot_effect :
    loop.snapshot now console =
      ({ loop with ticker := (loop.ticker.fire now).1 },
        { console with redraw := console.redraw && !(loop.ticker.fire now).2 },
        if (loop.ticker.fire now).2 = true ∧ console.IsNews loop.shownBeep then some console.frame
        else none) := by
  cases due : (loop.ticker.fire now).2 with
  | false => simp [snapshot, due]
  | true => simp [snapshot, due, Console.IsNews, Console.frame]

end SurfaceLoop

namespace SurfaceRun

/-- The frames the surface was given, in order. -/
def frames (run : SurfaceRun) : List Frame := run.sights.toList.filterMap Sight.frame?

/-- A run after the polls of a script. -/
def against (paces : Paces) (clock : Clock) (refusal : Nat → Option DeviceError) (console : Console)
    (script : List Poll) : SurfaceRun :=
  script.foldl (step clock refusal) (start paces clock console)

/-- Whether the next pass goes on to its end: the loop has not ended, finds the stop flag down, and
the surface answers its poll with something else than that the user quits. -/
structure Serves (run : SurfaceRun) (poll : Poll) : Prop where
  running : run.loop.isSome = true
  unstopped : run.console.stop = false
  served : ∃ event, poll.reply = .ok event ∧ event ≠ some .exit

variable {paces : Paces} {clock : Clock} {refusal : Nat → Option DeviceError} {console : Console}
  {script : List Poll} {run after : SurfaceRun} {loop : SurfaceLoop} {now : Instant} {poll : Poll}

/-- What a pass makes of a run once the surface has answered. The display call may fail; then the
loop ends, but the frame was given. -/
structure ServeEffect (run : SurfaceRun) (loop : SurfaceLoop) (now : Instant) (after : SurfaceRun) :
    Prop where
  frames : after.frames = run.frames ++
    if (loop.ticker.fire now).2 = true ∧ run.console.IsNews loop.shownBeep then [run.console.frame]
    else []
  console : ∃ keypad, after.console =
    { run.console with
      machine := { run.console.machine with keypad }
      redraw := run.console.redraw && !(loop.ticker.fire now).2 }
  readings : after.readings = run.readings
  ticker : ∀ next, after.loop = some next → next.ticker = (loop.ticker.fire now).1
  shownBeep : ∀ next, after.loop = some next → next.shownBeep =
    if (loop.ticker.fire now).2 = true ∧ run.console.IsNews loop.shownBeep then
      run.console.machine.isBeeping
    else loop.shownBeep

/-- Releasing and showing, where no key is reported. -/
theorem serve_unreported (refusal : Nat → Option DeviceError) (run : SurfaceRun)
    (loop : SurfaceLoop) (now : Instant) : ServeEffect run loop now (run.serve refusal loop none now) := by
  obtain ⟨keypad, released⟩ := loop.release_console now run.console
  obtain ⟨ticker, shownBeep⟩ := loop.release_frames now run.console
  have taken := (loop.release now run.console).1.snapshot_effect now (loop.release now run.console).2
  have same : (loop.release now run.console).2.frame = run.console.frame := by rw [released]; rfl
  have news : (loop.release now run.console).2.IsNews loop.shownBeep ↔
      run.console.IsNews loop.shownBeep := by rw [released]; rfl
  have left : ({ (loop.release now run.console).2 with
        redraw := (loop.release now run.console).2.redraw && !(loop.ticker.fire now).2 } : Console) =
      { run.console with
        machine := { run.console.machine with keypad }
        redraw := run.console.redraw && !(loop.ticker.fire now).2 } := by rw [released]
  rw [ticker, shownBeep, same, left] at taken
  simp only [news] at taken
  by_cases shows : (loop.ticker.fire now).2 = true ∧ run.console.IsNews loop.shownBeep
  · rw [if_pos shows] at taken
    cases refused : refusal run.displays with
    | none =>
      refine ⟨?_, ⟨keypad, ?_⟩, ?_, ?_, ?_⟩ <;>
        simp [serve, SurfaceLoop.serve, taken, refused, shows, frames, Sight.frame?, SurfaceLoop.shown,
          Console.frame]
    | some failure =>
      refine ⟨?_, ⟨keypad, ?_⟩, ?_, ?_, ?_⟩ <;>
        simp [serve, SurfaceLoop.serve, taken, refused, shows, frames, Sight.frame?]
  · rw [if_neg shows] at taken
    refine ⟨?_, ⟨keypad, ?_⟩, ?_, ?_, ?_⟩ <;> simp [serve, SurfaceLoop.serve, taken, shows, frames]

/-- A pass in which a key is reported is one in which no key is, after the press. -/
theorem serve_reported (refusal : Nat → Option DeviceError) (run : SurfaceRun) (loop : SurfaceLoop)
    (host : Char) (now : Instant) :
    run.serve refusal loop (some host) now =
      { run with
        console := (loop.press host now run.console).2.1
        journal := run.journal ++ (loop.press host now run.console).2.2 }.serve refusal
          (loop.press host now run.console).1 none now := by
  simp [serve, SurfaceLoop.serve]

/-- Serving shows what is due. -/
theorem serve_effect (refusal : Nat → Option DeviceError) (run : SurfaceRun) (loop : SurfaceLoop)
    (event : Option Char) (now : Instant) :
    ServeEffect run loop now (run.serve refusal loop event now) := by
  cases event with
  | none => exact serve_unreported refusal run loop now
  | some host =>
    obtain ⟨keypad, pressed⟩ := loop.press_console host now run.console
    obtain ⟨ticker, shownBeep⟩ := loop.press_frames now run.console host
    have effect := serve_unreported refusal
      { run with
        console := (loop.press host now run.console).2.1
        journal := run.journal ++ (loop.press host now run.console).2.2 }
      (loop.press host now run.console).1 now
    rw [serve_reported]
    constructor
    · rw [effect.frames, ticker, shownBeep, pressed]
      rfl
    · obtain ⟨keypad, left⟩ := effect.console
      refine ⟨keypad, left.trans ?_⟩
      rw [ticker, pressed]
    · rw [effect.readings]
    · intro next goesOn
      rw [effect.ticker next goesOn, ticker]
    · intro next goesOn
      rw [effect.shownBeep next goesOn, ticker, shownBeep, pressed]
      rfl

/-- While the surface is polled, only the console changes, and what is reported. -/
theorem meanwhile_effect (run : SurfaceRun) (poll : Poll) :
    ∃ journal, run.meanwhile poll.meanwhile =
      { run with console := poll.moment run.console, journal } := by
  unfold meanwhile Poll.moment
  induction poll.meanwhile generalizing run with
  | nil => exact ⟨run.journal, rfl⟩
  | cons activity later inductionHypothesis =>
    exact inductionHypothesis
      { run with
        console := activity.act run.console
        journal := run.journal ++ activity.notices run.console }

/-- A pass that does not go on to its end shows nothing, and the loop has ended after it. -/
theorem step_unserved (clock : Clock) (refusal : Nat → Option DeviceError)
    (unserved : ¬ run.Serves poll) :
    (run.step clock refusal poll).frames = run.frames ∧
      (run.step clock refusal poll).loop = none := by
  cases running : run.loop with
  | none => simp [step, running]
  | some loop =>
    by_cases stop : run.console.stop = true
    · simp [step, running, stop, frames]
    · have turned : run.step clock refusal poll = run.turn clock refusal loop poll := by
        simp [step, running, stop]
      obtain ⟨journal, polled⟩ := meanwhile_effect
        { run with sights := run.sights.push (.polled run.console.machine.keypad) } poll
      rw [turned]
      cases replied : poll.reply with
      | error failure => simp [turn, replied, polled, frames, Sight.frame?]
      | ok event =>
        by_cases quits : event = some .exit
        · simp [turn, replied, quits, polled, frames, Sight.frame?]
        · have serves : run.Serves poll :=
            ⟨by simp [running], by simpa using stop, event, replied, quits⟩
          exact absurd serves unserved

/-- A pass that goes on to its end serves the surface with the console of the moment and the reading
that follows the poll. -/
theorem step_serve (clock : Clock) (refusal : Nat → Option DeviceError) (serves : run.Serves poll) :
    ∃ loop event journal, run.loop = some loop ∧ run.step clock refusal poll =
      { run with
        console := poll.moment run.console
        readings := run.readings + 1
        sights := run.sights.push (.polled run.console.machine.keypad)
        journal : SurfaceRun }.serve refusal loop event (clock run.readings) := by
  obtain ⟨isRunning, unstopped, event, replied, stays⟩ := serves
  obtain ⟨loop, running⟩ := Option.isSome_iff_exists.mp isRunning
  have turned : run.step clock refusal poll = run.turn clock refusal loop poll := by
    simp [step, running, unstopped]
  obtain ⟨journal, polled⟩ := meanwhile_effect
    { run with sights := run.sights.push (.polled run.console.machine.keypad) } poll
  rw [turned]
  rcases event with _ | ⟨host | _⟩
  · exact ⟨loop, none, journal, running, by simp [turn, replied, polled]⟩
  · exact ⟨loop, some host, journal, running, by simp [turn, replied, polled]⟩
  · exact absurd rfl stays

/-- A pass that goes on to its end shows what is due. -/
theorem step_served (clock : Clock) (refusal : Nat → Option DeviceError) (serves : run.Serves poll) :
    ∃ loop, run.loop = some loop ∧ ∃ asked : SurfaceRun,
      asked.console = poll.moment run.console ∧ asked.readings = run.readings + 1 ∧
      asked.frames = run.frames ∧
      ServeEffect asked loop (clock run.readings) (run.step clock refusal poll) := by
  obtain ⟨loop, event, journal, running, served⟩ := step_serve clock refusal serves
  rw [served]
  exact ⟨loop, running, _, rfl, rfl, by simp [frames, Sight.frame?],
    serve_effect refusal _ loop event (clock run.readings)⟩

/-- A run remembers what a reference needs that only knows the script: the loop has the ticker that
was polled once in every pass, and knows the tone of the last frame. -/
structure Tracks (paces : Paces) (clock : Clock) (passes : Nat) (run : SurfaceRun) : Prop where
  ticker : ∀ loop, run.loop = some loop →
    loop.ticker = (paces.frameTicker clock).after (clock.pollTimes passes)
  shownBeep : ∀ loop, run.loop = some loop → loop.shownBeep = lastBeep run.frames
  readings : run.loop.isSome = true → run.readings = passes + 1

/-- A run that has ended remembers nothing. -/
theorem Tracks.ended {passes : Nat} (ended : run.loop = none) : run.Tracks paces clock passes := by
  constructor <;> simp [ended]

/-- What a pass that goes on to its end shows, and what it leaves of the redraw flag, is known to the
reference. -/
theorem Tracks.serves {passes : Nat} (tracks : run.Tracks paces clock passes)
    (refusal : Nat → Option DeviceError) (serves : run.Serves poll) :
    let moment := poll.moment run.console
    (run.step clock refusal poll).Tracks paces clock (passes + 1) ∧
    (run.step clock refusal poll).frames = run.frames ++
      (if frameDue paces clock passes = true ∧ moment.IsNews (lastBeep run.frames) then [moment.frame]
      else []) ∧
    ∃ keypad, (run.step clock refusal poll).console =
      { moment with
        machine := { moment.machine with keypad }
        redraw := moment.redraw && !frameDue paces clock passes } := by
  intro moment
  obtain ⟨loop, running, asked, console, readings, frames, effect⟩ := step_served clock refusal serves
  have reading : run.readings = passes + 1 := tracks.readings serves.running
  have fired : loop.ticker.fire (clock run.readings) =
      ((paces.frameTicker clock).after (clock.pollTimes passes)).fire (clock (passes + 1)) := by
    rw [tracks.ticker loop running, reading]
  have due : (loop.ticker.fire (clock run.readings)).2 = frameDue paces clock passes :=
    congrArg Prod.snd fired
  have shown := effect.frames
  have beep := effect.shownBeep
  rw [due, console, frames, tracks.shownBeep loop running] at shown
  rw [due, console, tracks.shownBeep loop running] at beep
  refine ⟨⟨?_, ?_, ?_⟩, shown, ?_⟩
  · intro next goesOn
    rw [effect.ticker next goesOn, fired, Clock.pollTimes_succ, Ticker.after_concat]
  · intro next goesOn
    rw [beep next goesOn, shown]
    by_cases shows : frameDue paces clock passes = true ∧
        (poll.moment run.console).IsNews (lastBeep run.frames)
    · rw [if_pos shows, if_pos shows, lastBeep_concat]
      rfl
    · rw [if_neg shows, if_neg shows, List.append_nil]
  · intro _
    rw [effect.readings, readings, reading]
  · obtain ⟨keypad, left⟩ := effect.console
    rw [due, console] at left
    exact ⟨keypad, left⟩

/-- A due frame takes the flag down, and the tone of the moment is known afterwards, whether or not
the frame was shown. -/
theorem Tracks.settled {passes : Nat} (tracks : run.Tracks paces clock passes)
    (refusal : Nat → Option DeviceError) (serves : run.Serves poll)
    (due : frameDue paces clock passes = true) :
    (run.step clock refusal poll).console.redraw = false ∧
      lastBeep (run.step clock refusal poll).frames =
        (poll.moment run.console).machine.isBeeping := by
  obtain ⟨_, shown, keypad, left⟩ := tracks.serves refusal serves
  rw [left, shown, due]
  refine ⟨by simp, ?_⟩
  by_cases news : (poll.moment run.console).IsNews (lastBeep run.frames)
  · rw [if_pos ⟨rfl, news⟩, lastBeep_concat]
    rfl
  · rw [if_neg (fun shows => news shows.2), List.append_nil]
    by_contra differs
    exact news (.inr (Ne.symm differs))

/-- Any pass keeps what the run remembers. -/
theorem Tracks.step {passes : Nat} (tracks : run.Tracks paces clock passes)
    (refusal : Nat → Option DeviceError) (poll : Poll) :
    (run.step clock refusal poll).Tracks paces clock (passes + 1) := by
  by_cases serves : run.Serves poll
  · exact (tracks.serves refusal serves).1
  · exact Tracks.ended (step_unserved clock refusal serves).2

/-- One more poll is a pass of the run that the earlier ones left. -/
theorem against_concat (poll : Poll) :
    against paces clock refusal console (script ++ [poll]) =
      (against paces clock refusal console script).step clock refusal poll := by
  simp [against]

/-- Every run remembers the script so far. -/
theorem against_tracks (paces : Paces) (clock : Clock) (refusal : Nat → Option DeviceError)
    (console : Console) (script : List Poll) :
    (against paces clock refusal console script).Tracks paces clock script.length := by
  induction script using List.reverseRecOn with
  | nil =>
    constructor
    · intro loop running
      obtain rfl := Option.some.inj running
      rfl
    · intro loop running
      obtain rfl := Option.some.inj running
      rfl
    · intro _
      rfl
  | append_singleton earlier poll inductionHypothesis =>
    rw [against_concat, List.length_append]
    exact inductionHypothesis.step refusal poll

/-- Over a stretch that follows a script nobody raises the redraw flag while the surface is polled,
and the tone is one and the same whenever a frame is due. -/
def Unchanged (paces : Paces) (clock : Clock) (refusal : Nat → Option DeviceError)
    (console : Console) (script stretch : List Poll) (beeping : Bool) : Prop :=
  ∀ earlier poll, earlier ++ [poll] <+: stretch →
    let run := against paces clock refusal console (script ++ earlier)
    run.Serves poll →
      (poll.moment run.console).redraw = run.console.redraw ∧
      (frameDue paces clock (script ++ earlier).length = true →
        (poll.moment run.console).machine.isBeeping = beeping)

/-- While no frame is due, nothing is shown, and a raised flag stays up. -/
theorem raised_until_due (raised : console.redraw = true)
    (early : ∀ pass < script.length, frameDue paces clock pass = false) :
    (against paces clock refusal console script).frames = [] ∧
      ((against paces clock refusal console script).loop.isSome = true →
        (against paces clock refusal console script).console.redraw = true) := by
  induction script using List.reverseRecOn with
  | nil => exact ⟨rfl, fun _ => raised⟩
  | append_singleton earlier poll inductionHypothesis =>
    rw [List.length_append] at early
    obtain ⟨nothing, stays⟩ := inductionHypothesis fun pass before =>
      early pass (Nat.lt_add_right 1 before)
    rw [against_concat]
    by_cases serves : (against paces clock refusal console earlier).Serves poll
    · obtain ⟨_, shown, keypad, left⟩ :=
        (against_tracks paces clock refusal console earlier).serves refusal serves
      have notDue : frameDue paces clock earlier.length = false :=
        early earlier.length (Nat.lt_add_one _)
      have raisedStill := poll.moment_redraw (stays serves.running)
      simp [shown, left, nothing, notDue, raisedStill]
    · obtain ⟨kept, ended⟩ := step_unserved clock refusal serves
      simp [kept, ended, nothing]

/-- After a due frame, nothing is shown while nothing changes. -/
theorem unchanged_shows_nothing {poll : Poll} {stretch : List Poll}
    (serves : (against paces clock refusal console script).Serves poll)
    (due : frameDue paces clock script.length = true)
    (unchanged : Unchanged paces clock refusal console (script ++ [poll]) stretch
      (poll.moment (against paces clock refusal console script).console).machine.isBeeping) :
    (against paces clock refusal console (script ++ [poll] ++ stretch)).frames =
        (against paces clock refusal console (script ++ [poll])).frames ∧
      ((against paces clock refusal console (script ++ [poll] ++ stretch)).loop.isSome = true →
        (against paces clock refusal console (script ++ [poll] ++ stretch)).console.redraw =
          false) := by
  obtain ⟨down, tone⟩ :=
    (against_tracks paces clock refusal console script).settled refusal serves due
  rw [← against_concat] at down tone
  induction stretch using List.reverseRecOn with
  | nil =>
    rw [List.append_nil]
    exact ⟨rfl, fun _ => down⟩
  | append_singleton earlier next inductionHypothesis =>
    obtain ⟨same, low⟩ := inductionHypothesis fun sooner poll early =>
      unchanged sooner poll (early.trans (List.prefix_append _ _))
    rw [← List.append_assoc, against_concat]
    by_cases servesNext :
        (against paces clock refusal console (script ++ [poll] ++ earlier)).Serves next
    · obtain ⟨_, shown, keypad, left⟩ :=
        (against_tracks paces clock refusal console (script ++ [poll] ++ earlier)).serves refusal
          servesNext
      obtain ⟨unraised, toneKept⟩ := unchanged earlier next List.prefix_rfl servesNext
      have lowStill := unraised.trans (low servesNext.running)
      have nothing : ¬ (frameDue paces clock (script ++ [poll] ++ earlier).length = true ∧
          (next.moment (against paces clock refusal console
            (script ++ [poll] ++ earlier)).console).IsNews
            (lastBeep (against paces clock refusal console
              (script ++ [poll] ++ earlier)).frames)) := by
        rintro ⟨dueNext, raised | differs⟩
        · exact Bool.false_ne_true (lowStill.symm.trans raised)
        · rw [same, tone] at differs
          exact differs (toneKept dueNext)
      rw [shown, left, if_neg nothing, lowStill, List.append_nil]
      exact ⟨same, fun _ => rfl⟩
    · obtain ⟨kept, ended⟩ := step_unserved clock refusal servesNext
      rw [kept, ended]
      exact ⟨same, nofun⟩

/-- A frame is shown exactly if one is due and there is something new to show.

In every pass that goes on to its end, the surface is given the picture of the moment if the frame
ticker fires at the reading of the pass and the redraw flag is up, or the tone is another than in
the frame shown last. Otherwise it is given nothing. Either way a due frame leaves the flag down, and
no other pass takes it down. So the first due frame is shown if the flag is up from the start; and
after a due frame none is shown for as long as the flag is not raised and the tone stays. -/
theorem shown_iff_due_and_news (paces : Paces) (clock : Clock)
    (refusal : Nat → Option DeviceError) (console : Console) (script : List Poll) :
    let after := against paces clock refusal console
    (∀ poll, (after script).Serves poll →
      let moment := poll.moment (after script).console
      ((after (script ++ [poll])).frames = (after script).frames ++
        if frameDue paces clock script.length = true ∧ (moment.redraw = true ∨
          moment.machine.isBeeping ≠ lastBeep (after script).frames) then
          [⟨moment.machine.screen, moment.machine.isBeeping⟩]
        else []) ∧
      ∃ keypad, (after (script ++ [poll])).console =
        { moment with
          machine := { moment.machine with keypad }
          redraw := moment.redraw && !frameDue paces clock script.length }) ∧
    (console.redraw = true → (∀ pass < script.length, frameDue paces clock pass = false) →
      frameDue paces clock script.length = true → ∀ poll, (after script).Serves poll →
        let moment := poll.moment (after script).console
        (after (script ++ [poll])).frames =
          [⟨moment.machine.screen, moment.machine.isBeeping⟩]) ∧
    ∀ poll stretch, (after script).Serves poll → frameDue paces clock script.length = true →
      Unchanged paces clock refusal console (script ++ [poll]) stretch
        (poll.moment (after script).console).machine.isBeeping →
      (after (script ++ [poll] ++ stretch)).frames = (after (script ++ [poll])).frames := by
  intro after
  have tracks := against_tracks paces clock refusal console script
  refine ⟨?_, ?_, ?_⟩
  · intro poll serves
    obtain ⟨_, shown, left⟩ := tracks.serves refusal serves
    rw [← against_concat] at shown left
    exact ⟨shown, left⟩
  · intro raised early due poll serves moment
    obtain ⟨nothing, stays⟩ := raised_until_due raised early
    obtain ⟨_, shown, _⟩ := tracks.serves refusal serves
    have news : moment.IsNews (lastBeep (after script).frames) :=
      .inl (poll.moment_redraw (stays serves.running))
    rw [← against_concat, if_pos ⟨due, news⟩, nothing, List.nil_append] at shown
    exact shown
  · intro poll stretch serves due unchanged
    exact (unchanged_shows_nothing serves due unchanged).1

/-- A clock that advances ten milliseconds from reading to reading. -/
def coarseClock : Clock := fun reading => 10000000 * reading

/-- A poll in which nothing happens. -/
def idlePoll : Poll := ⟨[], .ok none⟩

/-- Frames are due in the second and the fourth pass. The first of them is shown, the second is not,
for nothing has changed. -/
theorem second_due_frame_is_skipped :
    let after := against {} coarseClock (fun _ => none) ⟨Session.drawingMachine, true, false⟩
    frameDue {} coarseClock 1 = true ∧ frameDue {} coarseClock 3 = true ∧
      (after ([idlePoll] ++ [idlePoll])).frames = [⟨.blank, false⟩] ∧
      (after ([idlePoll] ++ [idlePoll] ++ [idlePoll, idlePoll])).frames =
        (after ([idlePoll] ++ [idlePoll])).frames := by
  intro after
  have theory := shown_iff_due_and_news {} coarseClock (fun _ => none)
    ⟨Session.drawingMachine, true, false⟩ [idlePoll]
  have due : frameDue {} coarseClock 1 = true := by decide
  have serves : (after [idlePoll]).Serves idlePoll := by
    refine ⟨?_, ?_, none, rfl, nofun⟩ <;> decide +kernel
  have first := theory.2.1 rfl (by decide) due idlePoll serves
  have second := theory.2.2 idlePoll [idlePoll, idlePoll] serves due
  refine ⟨due, by decide, first, second ?_⟩
  rintro earlier poll ⟨rest, early⟩ run _
  rcases earlier with _ | ⟨former, _ | ⟨later, others⟩⟩
  · obtain ⟨rfl, _⟩ : poll = idlePoll ∧ rest = [idlePoll] := by simpa using early
    exact ⟨rfl, fun _ => by decide +kernel⟩
  · obtain ⟨rfl, rfl, _⟩ : former = idlePoll ∧ poll = idlePoll ∧ rest = [] := by simpa using early
    exact ⟨rfl, fun _ => by decide +kernel⟩
  · simp at early

end SurfaceRun
end ChipEight
