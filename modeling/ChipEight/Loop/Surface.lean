import ChipEight.Loop
import ChipEight.KeyLatch

/-!
# The surface loop

The loop polls the surface for an event, reads the clock, presses a reported key, releases
the keys that were held for long enough, and shows a frame when one is due. A due frame is
shown only if a redraw is asked for or the tone changed since the frame shown last; either
way it takes the redraw flag down.

The loop ends when it finds the stop flag raised, when the user quits (and then raises the
flag), and when the surface fails. `run` is a whole run of this loop against a scripted
surface, where the other loop acts only while the surface is polled.
-/

namespace ChipEight

/-- What the user does. -/
inductive SurfaceEvent
  /-- A key of the host went down. -/
  | key (host : Char)
  /-- The user wants to quit. -/
  | exit
  deriving DecidableEq, Repr

/-- A picture of the screen, and whether the tone sounds. -/
structure Frame where
  screen : Screen
  beeping : Bool
  deriving DecidableEq

/-- What the loop remembers: the held keys, the frame ticker, and whether the tone sounded
in the frame shown last. -/
structure SurfaceLoop where
  latch : KeyLatch
  ticker : Ticker
  shownBeep : Bool
  deriving DecidableEq

namespace SurfaceLoop

/-- The loop starts with a clock reading. -/
def start (paces : Paces) (now : Instant) : SurfaceLoop :=
  ⟨.idle paces.keyHold, ⟨.ofHertz paces.frameHertz, now⟩, false⟩

/-- Presses the key a host key stands for, unless it is held already. -/
def press (loop : SurfaceLoop) (host : Char) (now : Instant) (console : Console) :
    SurfaceLoop × Console × List Notice :=
  match Key.ofChar? host with
  | none => (loop, console, [.unmappedKey host])
  | some key =>
    let (latch, isNew) := loop.latch.press key now
    if isNew then
      ({ loop with latch }, { console with machine := console.machine.setKey key true }, [.keyDown key])
    else (loop, console, [])

/-- Releases the keys that were held for long enough. -/
def release (loop : SurfaceLoop) (now : Instant) (console : Console) : SurfaceLoop × Console :=
  let (latch, keys) := loop.latch.releaseExpired now
  ({ loop with latch },
    { console with machine := keys.foldl (fun machine key => machine.setKey key false) console.machine })

/-- Takes a picture if a frame is due and there is something new to show. -/
def snapshot (loop : SurfaceLoop) (now : Instant) (console : Console) :
    SurfaceLoop × Console × Option Frame :=
  let (ticker, isDue) := loop.ticker.fire now
  if isDue then
    let beeping := console.machine.isBeeping
    let changed := console.redraw || beeping != loop.shownBeep
    ({ loop with ticker }, { console with redraw := false },
      if changed then some ⟨console.machine.screen, beeping⟩ else none)
  else ({ loop with ticker }, console, none)

/-- Presses a key if one was reported, releases keys, and takes a picture, all at the same time. -/
def serve (loop : SurfaceLoop) (event : Option Char) (now : Instant) (console : Console) :
    SurfaceLoop × Console × List Notice × Option Frame :=
  let (pressed, console, notices) :=
    match event with
    | some host => loop.press host now console
    | none => (loop, console, [])
  let (released, console) := pressed.release now console
  let (polled, console, frame) := released.snapshot now console
  (polled, console, notices, frame)

/-- A frame was shown. -/
def shown (loop : SurfaceLoop) (frame : Frame) : SurfaceLoop :=
  { loop with shownBeep := frame.beeping }

end SurfaceLoop

/-- What the other loop can do while the surface is polled. -/
inductive Activity
  | cycle
  | tick
  | raiseStop
  deriving DecidableEq, Repr

/-- Failures of cycles concern the other loop only. -/
def Activity.act (console : Console) : Activity → Console
  | cycle => console.cycle.1
  | tick => console.tick
  | raiseStop => console.raiseStop

/-- What an activity reports. -/
def Activity.notices (console : Console) : Activity → List Notice
  | cycle => console.machine.cycleNotices
  | tick | raiseStop => []

/-- A poll of a scripted surface: what happens meanwhile, and what the surface answers. -/
structure Poll where
  meanwhile : List Activity
  reply : Except DeviceError (Option SurfaceEvent)

/-- The poll at which the user quits. -/
def Poll.exit : Poll := ⟨[], .ok (some .exit)⟩

/-- What can be seen from the surface. -/
inductive Sight
  /-- The surface was polled while the keys were in some state. -/
  | polled (keypad : Keypad)
  /-- The surface was given a frame. -/
  | displayed (frame : Frame)
  deriving DecidableEq

/-- The loop at some time of a run against a scripted surface. `loop` is absent once the
loop has ended, `failure` is what the surface ended it with. -/
structure SurfaceRun where
  loop : Option SurfaceLoop
  console : Console
  readings : Nat
  displays : Nat
  failure : Option DeviceError
  sights : Array Sight
  journal : Array Notice

namespace SurfaceRun

/-- The loop before its first poll; the clock was read once. -/
def start (paces : Paces) (clock : Clock) (console : Console) : SurfaceRun :=
  ⟨some (.start paces (clock 0)), console, 1, 0, none, #[], #[]⟩

/-- The other loop acts. -/
def meanwhile (run : SurfaceRun) (activities : List Activity) : SurfaceRun :=
  activities.foldl
    (fun run (activity : Activity) =>
      { run with
        console := activity.act run.console
        journal := run.journal ++ activity.notices run.console })
    run

/-- Serves the surface, and shows the picture. The display call with count `n` fails as `refusal n`
says. -/
def serve (refusal : Nat → Option DeviceError) (run : SurfaceRun) (loop : SurfaceLoop)
    (event : Option Char) (now : Instant) : SurfaceRun :=
  let (polled, console, notices, frame) := loop.serve event now run.console
  let run := { run with console, journal := run.journal ++ notices }
  match frame with
  | none => { run with loop := some polled }
  | some frame =>
    let run := { run with displays := run.displays + 1, sights := run.sights.push (.displayed frame) }
    match refusal (run.displays - 1) with
    | some failure => { run with loop := none, failure := some failure }
    | none => { run with loop := some (polled.shown frame) }

/-- One pass through the loop, after the stop flag was found low. -/
def turn (clock : Clock) (refusal : Nat → Option DeviceError) (run : SurfaceRun)
    (loop : SurfaceLoop) (poll : Poll) : SurfaceRun :=
  let asked := { run with sights := run.sights.push (.polled run.console.machine.keypad) }
  let polled := asked.meanwhile poll.meanwhile
  match poll.reply with
  | .error failure => { polled with loop := none, failure := some failure }
  | .ok event =>
    let now := clock polled.readings
    let read := { polled with readings := polled.readings + 1 }
    match event with
    | some .exit =>
      { read with
        loop := none
        console := read.console.raiseStop
        journal := read.journal.push .exitRequested }
    | some (.key host) => read.serve refusal loop (some host) now
    | none => read.serve refusal loop none now

/-- One pass, if the loop has not ended and does not end here. -/
def step (clock : Clock) (refusal : Nat → Option DeviceError) (run : SurfaceRun) (poll : Poll) :
    SurfaceRun :=
  match run.loop with
  | none => run
  | some loop =>
    if run.console.stop then { run with loop := none } else run.turn clock refusal loop poll

/-- A whole run. After the script the user quits. -/
def finish (clock : Clock) (refusal : Nat → Option DeviceError) (run : SurfaceRun)
    (script : List Poll) : SurfaceRun :=
  (script ++ [Poll.exit]).foldl (step clock refusal) run

end SurfaceRun
end ChipEight
