import ChipEight.Archive.Library
import ChipEight.Cartridge
import ChipEight.FileTree
import ChipEight.Journal

/-!
# Loading cartridges

The program of a cartridge comes from a file or from an archive. Both ways end in
`Cartridge.ofBytes`, so they accept the same programs. A file gives its name to the
cartridge, and reading it is reported even if it turns out to be too large.

A file of an archive is read into a buffer that is made before, with room for the size the
archive declares. There is no buffer beyond a certain size, and asking for one is no error that
is reported: the program breaks down.
-/

namespace ChipEight

/-- Why content can not be read. -/
inductive ReadError
  | file (cause : FileError)
  | unpack (cause : UnpackError)
  deriving DecidableEq, Repr

/-- The wording is that of the cause. -/
def ReadError.message : ReadError → String
  | file cause => cause.message
  | unpack cause => cause.message

/-- Why a cartridge can not be loaded. -/
inductive LoadError
  | read (cause : ReadError)
  | archive (cause : ArchiveError)
  | tooLarge (refusal : TooLarge)
  deriving DecidableEq, Repr

namespace LoadError

/-- The message quotes the cause. -/
def message : LoadError → String
  | read cause => "Unable to read the rom '" ++ cause.message ++ "'."
  | archive cause => "Unable to extract the rom from the archive '" ++ cause.message ++ "'."
  | tooLarge refusal => refusal.message

/-- The messages of the causes, the nearest one first. -/
def causes : LoadError → List String
  | read cause => [cause.message]
  | archive cause => cause.message :: cause.cause?.toList
  | tooLarge _ => []

end LoadError

/-- What becomes of something that can break down. -/
inductive Attempt (α : Type)
  | returns (value : α)
  | breaksDown

/-- Goes on with what was returned. -/
def Attempt.map {α β : Type} (next : α → β) : Attempt α → Attempt β
  | returns value => .returns (next value)
  | breaksDown => .breaksDown

/-- The most bytes that a buffer has room for. -/
def bufferLimit : Nat := UInt64.size / 2 - 1

namespace Cartridge

/-- The cartridge of a program that was read. -/
def ofContent (name : String) (content : Array Byte) : Except LoadError Cartridge :=
  (Cartridge.ofBytes name content).mapError .tooLarge

/-- The cartridge of a file, given what reading the file answered. -/
def ofFile (path : String) (content : Except FileError (Array Byte)) : Except LoadError Cartridge := do
  ofContent (Path.fileName path) (← content.mapError fun cause => .read (.file cause))

/-- What loading a file reports. -/
def ofFileNotices (path : String) : Except FileError (Array Byte) → List Notice
  | .ok content => [.loaded (Path.fileName path) content.size]
  | .error _ => []

/-- The cartridge of a file that was found in an archive. It has the name that was asked for. -/
def ofPacked (name : String) (file : PackedFile) : Except LoadError Cartridge := do
  ofContent name (← file.content.mapError fun cause => .read (.unpack cause))

/-- The cartridge of a file in an archive. -/
def ofArchive (archive : OpenArchive) (name : String) : Attempt (Except LoadError Cartridge) :=
  match archive.file name with
  | .error cause => .returns (.error (.archive cause))
  | .ok file => if bufferLimit < file.size.toNat then .breaksDown else .returns (ofPacked name file)

end Cartridge

/-- The archive in a file, given what reading the file answered. -/
def OpenArchive.ofFile (library : ArchiveLibrary) (content : Except FileError (Array Byte)) :
    Except LoadError OpenArchive := do
  (library (← content.mapError fun cause => .read (.file cause))).mapError .archive

end ChipEight
