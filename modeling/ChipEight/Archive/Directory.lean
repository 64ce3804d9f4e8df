import ChipEight.Archive.Extra

/-!
# The directory of an archive

The directory is found from the end of the archive: the last end record within reach counts, and
something may stand before the archive or behind it. How much stands before it follows from
where a record is and where it should be.

The numbers of an end record may be too small for an archive. Then a locator in front of it
points to a large end record, and what that one says counts instead.
-/

namespace ChipEight.Archive

/-- Where the directory of an archive is. -/
structure Directory where
  /-- The count of bytes that stand before the archive. -/
  shift : Nat
  start : Nat
  entryCount : Nat
  deriving DecidableEq, Repr

/-- No position in an archive reaches this limit. -/
def positionLimit : Nat := UInt64.size

/-- How many bytes before the last possible one an end record may start. -/
def reach : Nat := 65535

/-- Looks for an end record, from a position on down, at so many positions. -/
def findEnd? (bytes : Array Byte) (position : Nat) : (count : Nat) → Option Nat
  | 0 => none
  | count + 1 =>
    if number? bytes position 4 = some endSignature then some position
    else if position = 0 then none
    else findEnd? bytes (position - 1) count

/-- Looks for a large end record, from a position on up, at so many positions. -/
def findLargeEnd? (bytes : Array Byte) (position : Nat) : (count : Nat) → Option Nat
  | 0 => none
  | count + 1 =>
    if number? bytes position 4 = some largeEndSignature then some position
    else findLargeEnd? bytes (position + 1) count

namespace Directory

/-- The directory of an end record that is at a position. It ends where the record starts. -/
def ofEnd (record : EndRecord) (position : Nat) : Except ArchiveError Directory :=
  if position < record.directorySize + record.directoryOffset then .error .misplacedDirectory
  else
    let shift := position - record.directorySize - record.directoryOffset
    .ok ⟨shift, record.directoryOffset + shift, record.diskEntryCount⟩

/-- The directory of the large end record that a locator points to. The record has to end where
the locator before the end record starts, or before that. -/
def ofLocator (bytes : Array Byte) (locator : Locator) (endPosition : Nat) :
    Except ArchiveError Directory := do
  let room := EndRecord.largeSize + 4
  if endPosition < room then throw .noRoomForLargeEnd
  let count := endPosition - room + 1 - locator.largeEnd
  match findLargeEnd? bytes locator.largeEnd count with
  | none => throw .noLargeEnd
  | some position =>
    match EndRecord.readLarge? bytes position with
    | none => throw .truncated
    | some record =>
      if record.disk ≠ record.directoryDisk then throw .severalDisks
      let shift := position - locator.largeEnd
      if positionLimit ≤ record.directoryOffset + shift then throw .misplacedDirectory
      return ⟨shift, record.directoryOffset + shift, record.entryCount⟩

/-- Finds the directory. That an archive is in several parts shows in the numbers of its disks,
unless the end record is too small for the archive. -/
def find (bytes : Array Byte) : Except ArchiveError Directory := do
  if bytes.size < EndRecord.leastSize then throw .tooShort
  match findEnd? bytes (bytes.size - EndRecord.leastSize) (reach + 1) with
  | none => throw .noEndRecord
  | some position =>
    match EndRecord.read? bytes position with
    | none => throw .truncated
    | some record =>
      if !record.isTooSmall && record.disk ≠ record.directoryDisk then throw .severalDisks
      match Locator.read? bytes record with
      | none => ofEnd record position
      | some locator =>
        if !record.isTooSmall && record.disk ≠ locator.disk then throw .severalDisks
        ofLocator bytes locator position

/-- Reads entries one after the other. A signature is looked at before the rest is. -/
def readEntries (bytes : Array Byte) (shift : Nat) :
    (count position : Nat) → Except ArchiveError (List Entry)
  | 0, _ => return []
  | count + 1, position =>
    match number? bytes position 4 with
    | none => throw .truncated
    | some signature =>
      if signature = entrySignature then
        match Entry.read? bytes position with
        | none => throw .truncated
        | some (entry, position) => do
          let entry ← entry.completed
          if positionLimit ≤ entry.header + shift then throw .misplacedHeader
          return entry :: (← readEntries bytes shift count position)
      else throw .badEntry

/-- The entries of a directory. -/
def entries (directory : Directory) (bytes : Array Byte) : Except ArchiveError (List Entry) :=
  readEntries bytes directory.shift directory.entryCount directory.start

end Directory
end ChipEight.Archive
