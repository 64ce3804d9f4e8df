import ChipEight.CommandLine.Declaration

/-!
# The command line

The arguments choose where the program comes from, how fast it runs and what is logged where.
Whatever is not chosen has a default. A library reads the arguments by the options that are
declared here.
-/

namespace ChipEight

/-- What is chosen for a run. -/
structure Options where
  /-- The file of the program, or its name in the archive. -/
  rom : String := "roms/pong.ch8"
  archive : Option String := none
  debug : Bool := false
  hertz : Nat := 500
  logFile : String := "chip8-term.log"
  deriving DecidableEq, Repr

/-- The wording tells what is wrong, and not with which argument. -/
def Refusal.message : Refusal → String
  | unknownArgument => "There is an argument that is not known."
  | missingValue => "A value is missing."
  | invalidNumber => "A number is not one from 1 up."
  | repeated => "An option is given twice."
  | unexpectedValue => "A value is given to an option that takes none."
  | missingOption => "An option is missing."
  | helpRequested =>
    "Usage: [--rom ROM] [--archive ARCHIVE] [--debug] [--hz HZ] [--log-file LOG_FILE]"

namespace Declared

/-- The options of a run in which nothing is chosen. -/
def usual : Options := {}

/-- The program. -/
def rom : Declaration := ⟨"rom", .text, some usual.rom⟩

/-- The archive with the program. -/
def archive : Declaration := ⟨"archive", .path, usual.archive⟩

/-- Whether more is logged. -/
def debug : Declaration := ⟨"debug", .nothing, none⟩

/-- The pace. Nothing runs at no pace. -/
def hertz : Declaration := ⟨"hz", .number 1, some usual.hertz.repr⟩

/-- The file of the log. -/
def logFile : Declaration := ⟨"log-file", .path, some usual.logFile⟩

/-- All options. -/
def table : List Declaration := [rom, archive, debug, hertz, logFile]

end Declared

namespace Options

/-- The options by what was found for each. The ones with a default are always found. -/
def ofMatches (found : Matches) : Except Refusal Options :=
  match found.text? Declared.rom, found.number? Declared.hertz, found.text? Declared.logFile with
  | some rom, some hertz, some logFile =>
    .ok { rom
          archive := found.text? Declared.archive
          debug := found.isGiven Declared.debug
          hertz
          logFile }
  | _, _, _ => .error .missingOption

/-- The options that arguments choose, by a library that reads them. -/
def read (library : ArgumentLibrary) (arguments : List String) : Except Refusal Options := do
  ofMatches (← library Declared.table arguments)

end Options
end ChipEight
