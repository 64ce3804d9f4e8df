import ChipEight.Archive.Crc32
import ChipEight.Archive.Directory
import ChipEight.Archive.Library

/-!
# Archives

An archive is opened by its directory. Of several files of one name the last one counts.

Taking a file out goes in two steps. The first one finds what is stored for the file, the
second one unpacks it and compares checksums. Archives in several parts and encrypted files are
refused. The size that an entry declares for its content is handed on as it is.
-/

namespace ChipEight

/-- How a file is stored. -/
inductive Packing
  | plain
  | deflated
  deriving DecidableEq, Repr

/-- The packing a method number stands for. -/
def Packing.ofMethod? : Nat → Option Packing
  | 0 => some .plain
  | 8 => some .deflated
  | _ => none

/-- What is stored for a file. -/
structure Stored where
  packing : Packing
  checksum : UInt32
  /-- The size that the content of the file should have. -/
  contentSize : UInt64
  bytes : Array Byte
  deriving DecidableEq

/-- The content of a file. Its checksum has to be right. -/
def Stored.unpack (stored : Stored) : Except UnpackError (Array Byte) := do
  let content ←
    match stored.packing with
    | .plain => pure stored.bytes
    | .deflated => (Deflate.inflate stored.bytes).mapError .deflate
  if Crc32.checksum content = stored.checksum then return content else throw .wrongChecksum

/-- An archive: its bytes, the count of bytes that stand before it, and its directory. -/
structure Archive where
  bytes : Array Byte
  shift : Nat
  entries : List Archive.Entry
  deriving DecidableEq

namespace Archive

/-- Opens an archive. -/
def ofBytes (bytes : Array Byte) : Except ArchiveError Archive := do
  let directory ← Directory.find bytes
  return { bytes, shift := directory.shift, entries := ← directory.entries bytes }

/-- The names of all files in ascending order, each of them once. -/
def names (archive : Archive) : List String :=
  (archive.entries.map Entry.name).eraseDups.mergeSort fun first second => first ≤ second

/-- The entry of a name. -/
def entry? (archive : Archive) (name : String) : Option Entry :=
  archive.entries.findRev? (·.name = name)

/-- What is stored for the file of a name. It may be cut off by the end of the archive. -/
def stored (archive : Archive) (name : String) : Except ArchiveError Stored :=
  match archive.entry? name with
  | none => throw .noSuchFile
  | some entry => do
    if entry.isEncrypted then throw .encrypted
    let header := entry.header + archive.shift
    match number? archive.bytes header 4 with
    | none => throw .truncated
    | some signature =>
      if signature ≠ headerSignature then throw .badHeader
      match fileStart? archive.bytes header, Packing.ofMethod? entry.method with
      | none, _ => throw .truncated
      | some _, none => throw .unsupportedMethod
      | some start, some packing =>
        if entry.isSealed then throw .encrypted
        return ⟨packing, entry.checksum, UInt64.ofNat entry.contentSize,
          archive.bytes.extract start (start + entry.size)⟩

/-- An archive as it is used to load programs. -/
def opened (archive : Archive) : OpenArchive where
  names := archive.names
  file name := do
    let stored ← archive.stored name
    return ⟨stored.contentSize, stored.unpack⟩

/-- Opens archives of the format of this module. -/
def library : ArchiveLibrary := fun bytes => (ofBytes bytes).map opened

end Archive
end ChipEight
