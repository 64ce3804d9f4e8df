import ChipEight.Cartridge.Load
import ChipEight.CommandLine
import ChipEight.Text.Quoted

/-!
# Files of the command line

The options name three files: a program or an archive with it, and a log. Whatever goes wrong
with them is told with what was tried and every cause, the outermost first.
-/

namespace ChipEight

/-- What was tried when a program could not be loaded, and why it could not. -/
inductive LoadFailure
  | archive (path : String) (cause : LoadError)
  /-- A program of an open archive that holds programs of some names. -/
  | entry (rom : String) (names : List String) (cause : LoadError)
  | file (rom : String) (cause : LoadError)
  deriving DecidableEq, Repr

namespace LoadFailure

/-- What was tried. -/
def attempt : LoadFailure → String
  | archive path _ => "Unable to open the archive " ++ path
  | entry rom names _ =>
    "Unable to load '" ++ rom ++ "', the archive contains " ++ Quoted.list names
  | file rom _ => "Unable to load '" ++ rom ++ "'"

/-- Why it failed. -/
def cause : LoadFailure → LoadError
  | archive _ cause | entry _ _ cause | file _ cause => cause

/-- The whole chain of causes. -/
def message (failure : LoadFailure) : String :=
  ": ".intercalate (failure.attempt :: failure.cause.message :: failure.cause.causes)

end LoadFailure

/-- A log file that could not be made. -/
structure LogFailure where
  path : String
  cause : FileError
  deriving DecidableEq, Repr

/-- The message tells the path and the cause. -/
def LogFailure.message (failure : LogFailure) : String :=
  "Unable to create the log file " ++ failure.path ++ ": " ++ failure.cause.message

/-- Makes an empty log file. -/
def FileTree.createLog (tree : FileTree) (path : String) : Except LogFailure FileTree :=
  (tree.create path).mapError (LogFailure.mk path)

namespace Options

/-- The file that has to be read for the program. -/
def source (options : Options) : String := options.archive.getD options.rom

/-- Loads the program, given what reading its file answered. -/
def load (library : ArchiveLibrary) (options : Options) (content : Except FileError (Array Byte)) :
    Attempt (Except LoadFailure Cartridge) :=
  match options.archive with
  | some path =>
    match OpenArchive.ofFile library content with
    | .error cause => .returns (.error (.archive path cause))
    | .ok archive =>
      (Cartridge.ofArchive archive options.rom).map (·.mapError (.entry options.rom archive.names))
  | none => .returns ((Cartridge.ofFile options.rom content).mapError (.file options.rom))

/-- What loading reports. -/
def loadNotices (options : Options) (content : Except FileError (Array Byte)) : List Notice :=
  match options.archive with
  | some _ => []
  | none => Cartridge.ofFileNotices options.rom content

end Options
end ChipEight
