import ChipEight.Archive
import ChipEight.CommandLine.Load
import ChipEight.CommandLine.Reading
import ChipEight.Loop.Session

/-!
# The program

Runs the program that the command line names, shows its screen on standard output and writes
the journal into the log file. Keys are read from standard input, line by line; the end of
the input quits.
-/

namespace ChipEight.Terminal

/-- The reason in the library's words, where it has some. -/
def reason : IO.Error → FileError
  | .noFileOrDirectory .. => .notFound
  | error => .other error.toString

/-- Does something with a file. -/
def attempt {α : Type} (act : IO α) : IO (Except FileError α) := do
  try return .ok (← act)
  catch error => return .error (reason error)

/-- A screen as lines of text. -/
def picture (screen : Screen) : String :=
  "\n".intercalate <| (List.finRange 32).map fun row =>
    String.ofList <| (List.finRange 64).map fun column =>
      if screen.pixel column row then '█' else ' '

/-- The log file and the rank up to which it is kept. -/
structure Log where
  file : IO.FS.Handle
  rank : Nat

/-- Writes down the notices that are kept. -/
def Log.write (log : Log) (notices : List Notice) : IO Unit := do
  for notice in notices do
    if notice.isKept log.rank then
      log.file.putStrLn (notice.level.name ++ " " ++ notice.text)
  log.file.flush

/-- Reports what the user types until the input ends. -/
partial def listen (input : IO.FS.Stream) (events : IO.Ref (List SurfaceEvent)) : IO Unit := do
  let line ← input.getLine
  if line.isEmpty then events.modify (· ++ [.exit])
  else
    events.modify (· ++ (line.toList.filter (· ≠ '\n')).map .key)
    listen input events

/-- Shows a frame over the one before it. -/
def display (frame : Frame) : IO Unit := do
  let output ← IO.getStdout
  output.putStrLn ("\x1b[H" ++ picture frame.screen)
  if frame.beeping then output.putStr "\x07"
  output.flush

/-- Lets both loops take turns until one of them ends. -/
partial def turns (log : Log) (events : IO.Ref (List SurfaceEvent)) (cpu : CpuLoop)
    (surface : SurfaceLoop) (console : Console) : IO CpuResult := do
  let turn := cpu.turn (← IO.monoNanosNow) console
  log.write turn.notices
  match turn.fault, ← events.modifyGet fun events => (events.head?, events.tail) with
  | some fault, _ => return .failed fault
  | none, some .exit =>
    log.write [.exitRequested]
    return .finished
  | none, event =>
    let host := match event with
      | some (.key host) => some host
      | _ => none
    let (surface, console, notices, frame) := surface.serve host (← IO.monoNanosNow) turn.console
    log.write notices
    frame.forM display
    IO.sleep 1
    turns log events turn.loop (frame.elim surface surface.shown) console

/-- Runs a cartridge. -/
def run (log : Log) (options : Options) (cartridge : Cartridge) : IO (Except RunError Unit) := do
  let usual : Paces := {}
  let paces := { usual with cpuHertz := options.hertz }
  let machine := Machine.boot cartridge (.cycling (← IO.getRandomBytes 65536).data)
  log.write (Machine.bootNotices cartridge ++ [.running machine.name paces.cpuHertz])
  let events ← IO.mkRef []
  let _listener ← IO.asTask (listen (← IO.getStdin) events) .dedicated
  let now ← IO.monoNanosNow
  let result ← turns log events (.start paces now) (.start paces now) ⟨machine, true, false⟩
  log.write (Session.endNotices machine.name none result)
  return Session.outcome none result

/-- Does what the arguments ask for, and answers the exit code. -/
def start (arguments : List String) : IO UInt32 := do
  match Options.read Reading.library arguments with
  | .error .helpRequested =>
    IO.println Refusal.helpRequested.message
    return 0
  | .error refusal =>
    IO.eprintln ("error: " ++ refusal.message)
    return 2
  | .ok options =>
    match ← attempt (IO.FS.Handle.mk options.logFile .write) with
    | .error cause =>
      IO.eprintln ("Error: " ++ (LogFailure.mk options.logFile cause).message)
      return 1
    | .ok file =>
      let log : Log := ⟨file, if options.debug then Level.debug.rank else Level.info.rank⟩
      let content := (← attempt (IO.FS.readBinFile options.source)).map ByteArray.data
      log.write (options.loadNotices content)
      match options.load Archive.library content with
      | .breaksDown => throw (IO.userError "capacity overflow")
      | .returns (.error failure) =>
        IO.eprintln ("Error: " ++ failure.message)
        return 1
      | .returns (.ok cartridge) =>
        match ← run log options cartridge with
        | .error error =>
          IO.eprintln ("Error: " ++ error.message)
          return 1
        | .ok _ => return 0

end ChipEight.Terminal

/-- Runs the program. -/
def main (arguments : List String) : IO UInt32 := ChipEight.Terminal.start arguments
