import ChipEight.Archive.Deflate
import ChipEight.Archive.Error

/-!
# A library for archives

Archives are read by a library, and this module says what of it is used. The library opens an
archive from its bytes. An open archive lists the names of its files and finds a file by its
name. A file that was found declares the size of its content before anything of it is read;
reading it to its end unpacks the content, or fails.

Any such library can be used to load programs. `Archive.library` is one.
-/

namespace ChipEight

/-- Why stored content can not be unpacked. -/
inductive UnpackError
  | deflate (cause : DeflateError)
  | wrongChecksum
  deriving DecidableEq, Repr

/-- The wording of an error of unpacking. -/
def UnpackError.message : UnpackError → String
  | deflate cause => cause.message
  | wrongChecksum => "Invalid checksum"

/-- A file that was found in an archive. -/
structure PackedFile where
  /-- The size that the archive declares for the content. It is not checked. -/
  size : UInt64
  /-- What reading the file to its end answers. -/
  content : Except UnpackError (Array Byte)

/-- An archive that was opened. -/
structure OpenArchive where
  /-- The names of all files. -/
  names : List String
  /-- The file of a name. -/
  file : (name : String) → Except ArchiveError PackedFile

/-- A library, by the way it opens archives. -/
abbrev ArchiveLibrary := (bytes : Array Byte) → Except ArchiveError OpenArchive

end ChipEight
