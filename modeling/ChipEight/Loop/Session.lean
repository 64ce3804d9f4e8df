import ChipEight.Loop.Cpu
import ChipEight.Loop.Surface

/-!
# Both loops together

The cpu loop runs on a worker beside the surface loop. Each loop goes through phases; what it
does between two looks at shared state is one step. A schedule says which loop takes the next
step, so any interleaving is the run of some schedule.

The worker can break down wherever it asks something of the outside: for a reading of the clock, for
a random byte, or to take down a record. A request that has no answer ends the cpu loop at once and
lets the machine go as it is; no flag is raised then.

When the surface loop has ended, the stop flag is raised and the cpu loop is waited for. The
result is then the failure of the surface, else the fault of the machine, else that the worker
broke down.
-/

namespace ChipEight

/-- How the cpu loop ended. -/
inductive CpuResult
  | finished
  | failed (fault : Fault)
  | panicked
  deriving DecidableEq, Repr

/-- Where the cpu loop is. -/
inductive CpuPhase
  /-- Before its first clock reading. -/
  | starting
  /-- About to look at the stop flag. -/
  | checking (loop : CpuLoop)
  /-- About to read the clock. -/
  | polling (loop : CpuLoop)
  /-- About to take the machine and do what is due. -/
  | acting (loop : CpuLoop) (fired : Fired)
  | ended (result : CpuResult)

/-- Where the surface loop is, and the end of the run after it. -/
inductive SurfacePhase
  /-- Before its first clock reading. -/
  | starting
  /-- About to look at the stop flag. -/
  | checking (loop : SurfaceLoop)
  /-- About to ask the surface for an event. -/
  | polling (loop : SurfaceLoop)
  /-- About to press a key. -/
  | pressing (loop : SurfaceLoop) (host : Char) (now : Instant)
  /-- About to release keys. -/
  | releasing (loop : SurfaceLoop) (now : Instant)
  /-- About to take a picture, if a frame is due. -/
  | framing (loop : SurfaceLoop) (now : Instant)
  /-- About to show a picture. -/
  | displaying (loop : SurfaceLoop) (frame : Frame)
  /-- Ended, about to raise the stop flag. -/
  | stopping (failure : Option DeviceError)
  /-- Waiting for the cpu loop. -/
  | joining (failure : Option DeviceError)
  | returned (result : Except RunError Unit)

/-- The world around a session. Everything is answered by the count of earlier requests of the
same kind. -/
structure Surroundings where
  paces : Paces
  /-- A reading of the cpu loop that has no answer breaks the worker down. -/
  cpuClock : Nat → Option Instant
  /-- Of the requests that a pass makes while it holds the machine, the one that has no answer. It
  breaks the worker down, if the pass gets there. Passes are told apart by their readings. -/
  unanswered : (readings : Nat) → Option Nat := fun _ => none
  surfaceClock : Clock
  reply : Nat → Except DeviceError (Option SurfaceEvent)
  refusal : Nat → Option DeviceError

/-- A session at some time. `shown` is the picture on the display. -/
structure Session where
  console : Console
  cpu : CpuPhase
  surface : SurfacePhase
  cpuReadings : Nat
  surfaceReadings : Nat
  polls : Nat
  displays : Nat
  shown : Option Frame
  journal : Array Notice

/-- The two loops. -/
inductive Thread
  | cpu
  | surface
  deriving DecidableEq, Repr

namespace Session

/-- The first frame is always asked for. -/
def start (paces : Paces) (machine : Machine) : Session where
  console := ⟨machine, true, false⟩
  cpu := .starting
  surface := .starting
  cpuReadings := 0
  surfaceReadings := 0
  polls := 0
  displays := 0
  shown := none
  journal := #[.running machine.name paces.cpuHertz]

/-- The result of a run whose loops have both ended. -/
def outcome (failure : Option DeviceError) (result : CpuResult) : Except RunError Unit :=
  match failure, result with
  | some failure, _ => .error (.device failure)
  | none, .failed fault => .error (.process fault)
  | none, .panicked => .error .workerPanicked
  | none, .finished => .ok ()

/-- What the end of a run reports. -/
def endNotices (name : String) (failure : Option DeviceError) (result : CpuResult) : List Notice :=
  (if result = .panicked then [.workerPanicked] else [])
    ++ match outcome failure result with
      | .ok _ => [.ended name]
      | .error _ => []

/-- The clock reading of the cpu loop, or its end. -/
def readCpuClock (around : Surroundings) (session : Session) (next : Instant → CpuPhase) : Session :=
  match around.cpuClock session.cpuReadings with
  | some now => { session with cpuReadings := session.cpuReadings + 1, cpu := next now }
  | none => { session with cpu := .ended .panicked }

/-- The requests that a pass makes up to the one that has no answer, if it gets there. -/
def brokenPass? (around : Surroundings) (session : Session) (loop : CpuLoop) (fired : Fired) :
    Option (List Request) :=
  let requests := loop.requests fired session.console
  match around.unanswered session.cpuReadings with
  | some last => if last < requests.length then some (requests.take (last + 1)) else none
  | none => none

/-- The worker breaks down in the last of some requests. -/
def breakDown (session : Session) (requests : List Request) : Session :=
  { session with
    console.machine := (requests.getLast?.map Request.machine).getD session.console.machine
    journal := session.journal ++ requests.filterMap Request.notice
    cpu := .ended .panicked }

/-- A step of the cpu loop. -/
def stepCpu (around : Surroundings) (session : Session) : Session :=
  match session.cpu with
  | .starting => session.readCpuClock around fun now => .checking (.start around.paces now)
  | .checking loop =>
    { session with cpu := if session.console.stop then .ended .finished else .polling loop }
  | .polling loop =>
    session.readCpuClock around fun now =>
      let (polled, fired) := loop.poll now
      if fired.cpu || fired.timer then .acting polled fired else .checking polled
  | .acting loop fired =>
    match session.brokenPass? around loop fired with
    | some requests => session.breakDown requests
    | none =>
      let turn := loop.act fired session.console
      { session with
        console := turn.console
        journal := session.journal ++ turn.notices
        cpu := match turn.fault with
          | some fault => .ended (.failed fault)
          | none => .checking turn.loop }
  | .ended _ => session

/-- The surface was polled and had something to say. -/
def answered (around : Surroundings) (session : Session) (loop : SurfaceLoop)
    (event : Option SurfaceEvent) : Session :=
  let now := around.surfaceClock session.surfaceReadings
  let read := { session with surfaceReadings := session.surfaceReadings + 1 }
  match event with
  | some .exit =>
    { read with
      console := read.console.raiseStop
      journal := read.journal.push .exitRequested
      surface := .stopping none }
  | some (.key host) => { read with surface := .pressing loop host now }
  | none => { read with surface := .releasing loop now }

/-- A step of the surface loop, or of the end of the run. -/
def stepSurface (around : Surroundings) (session : Session) : Session :=
  match session.surface with
  | .starting =>
    { session with
      surfaceReadings := session.surfaceReadings + 1
      surface := .checking (.start around.paces (around.surfaceClock session.surfaceReadings)) }
  | .checking loop =>
    { session with surface := if session.console.stop then .stopping none else .polling loop }
  | .polling loop =>
    let polled := { session with polls := session.polls + 1 }
    match around.reply session.polls with
    | .error failure => { polled with surface := .stopping (some failure) }
    | .ok event => polled.answered around loop event
  | .pressing loop host now =>
    let (pressed, console, notices) := loop.press host now session.console
    { session with console, journal := session.journal ++ notices, surface := .releasing pressed now }
  | .releasing loop now =>
    let (released, console) := loop.release now session.console
    { session with console, surface := .framing released now }
  | .framing loop now =>
    let (polled, console, frame) := loop.snapshot now session.console
    { session with
      console
      surface := match frame with
        | some frame => .displaying polled frame
        | none => .checking polled }
  | .displaying loop frame =>
    let given := { session with displays := session.displays + 1 }
    match around.refusal session.displays with
    | some failure => { given with surface := .stopping (some failure) }
    | none => { given with shown := some frame, surface := .checking (loop.shown frame) }
  | .stopping failure =>
    { session with console := session.console.raiseStop, surface := .joining failure }
  | .joining failure =>
    match session.cpu with
    | .ended result =>
      { session with
        journal := session.journal ++ endNotices session.console.machine.name failure result
        surface := .returned (outcome failure result) }
    | _ => session
  | .returned _ => session

/-- A step of one of the loops. -/
def step (around : Surroundings) (session : Session) : Thread → Session
  | .cpu => session.stepCpu around
  | .surface => session.stepSurface around

/-- The session after the steps of a schedule. -/
def run (around : Surroundings) (session : Session) (schedule : List Thread) : Session :=
  schedule.foldl (step around) session

/-- The result, once the run has returned. -/
def result? (session : Session) : Option (Except RunError Unit) :=
  match session.surface with
  | .returned result => some result
  | _ => none

/-- Lets the loops take steps in turn until the run has returned, for at most `bound` rounds. -/
def finish (around : Surroundings) : (bound : Nat) → Session → Session
  | 0, session => session
  | bound + 1, session =>
    if session.result?.isSome then session
    else ((session.step around .cpu).step around .surface).finish around bound

end Session
end ChipEight
