import ChipEight.Text.CodePage437
import ChipEight.Text.Utf8

/-!
# Records of an archive

An archive holds its files one after the other, each behind a header of its own, then a
directory with one entry for every file, and at last an end record that says where the
directory is. A large archive has a large end record too, and a locator that says where that
is. Numbers are stored with the lowest byte first. Every record starts with a signature, and
some have parts of variable length behind a fixed part.

Reading a record answers nothing if the bytes end before the record does.
-/

namespace ChipEight.Archive

/-- So many bytes from a position on. -/
def slice? (bytes : Array Byte) (position count : Nat) : Option (Array Byte) :=
  if position + count ≤ bytes.size then some (bytes.extract position (position + count)) else none

/-- The number in a sequence of bytes. -/
def numberOf (bytes : Array Byte) : Nat :=
  bytes.foldr (fun byte high => byte.toNat + 256 * high) 0

/-- The number that is stored at a position. -/
def number? (bytes : Array Byte) (position count : Nat) : Option Nat :=
  (slice? bytes position count).map numberOf

/-- The number in a field of a record that was read. Fields past its end are zero. -/
def field (record : Array Byte) (offset count : Nat) : Nat :=
  numberOf (record.extract offset (offset + count))

/-- The signature of the header before a file. -/
def headerSignature : Nat := 0x04034B50

/-- The signature of an entry of the directory. -/
def entrySignature : Nat := 0x02014B50

/-- The signature of the end record. -/
def endSignature : Nat := 0x06054B50

/-- The signature of a large end record. -/
def largeEndSignature : Nat := 0x06064B50

/-- The signature of the locator of a large end record. -/
def locatorSignature : Nat := 0x07064B50

/-- The number that stands in so many bytes for one that does not fit. -/
def unfit (count : Nat) : Nat := 1 <<< (8 * count) - 1

/-- The end record of an archive. -/
structure EndRecord where
  disk : Nat
  directoryDisk : Nat
  /-- How many entries the directory has on this disk. -/
  diskEntryCount : Nat
  entryCount : Nat
  directorySize : Nat
  directoryOffset : Nat
  commentSize : Nat
  deriving DecidableEq, Repr

namespace EndRecord

/-- The size of an end record without its comment. -/
def leastSize : Nat := 22

/-- Reads an end record with its comment. -/
def read? (bytes : Array Byte) (position : Nat) : Option EndRecord := do
  let record ← slice? bytes position leastSize
  let commentSize := field record 20 2
  let _comment ← slice? bytes (position + leastSize) commentSize
  return {
    disk := field record 4 2
    directoryDisk := field record 6 2
    diskEntryCount := field record 8 2
    entryCount := field record 10 2
    directorySize := field record 12 4
    directoryOffset := field record 16 4
    commentSize }

/-- Whether one of the numbers stands for one that does not fit. -/
def isTooSmall (record : EndRecord) : Bool :=
  [record.disk, record.directoryDisk, record.diskEntryCount, record.entryCount].contains (unfit 2) ||
    [record.directorySize, record.directoryOffset].contains (unfit 4)

/-- The size of a large end record. -/
def largeSize : Nat := 56

/-- Reads a large end record. It has no comment. -/
def readLarge? (bytes : Array Byte) (position : Nat) : Option EndRecord := do
  let record ← slice? bytes position largeSize
  return {
    disk := field record 16 4
    directoryDisk := field record 20 4
    diskEntryCount := field record 24 8
    entryCount := field record 32 8
    directorySize := field record 40 8
    directoryOffset := field record 48 8
    commentSize := 0 }

end EndRecord

/-- The locator of a large end record. -/
structure Locator where
  disk : Nat
  /-- Where the large end record should be. -/
  largeEnd : Nat
  deriving DecidableEq, Repr

/-- The size of a locator. -/
def Locator.size : Nat := 20

/-- Reads the locator. It is where it has to be if the comment of the end record ends with the
bytes. -/
def Locator.read? (bytes : Array Byte) (record : EndRecord) : Option Locator := do
  let behind := Locator.size + EndRecord.leastSize + record.commentSize
  if bytes.size < behind then none
  let locator ← slice? bytes (bytes.size - behind) Locator.size
  if field locator 0 4 ≠ locatorSignature then none
  return { disk := field locator 4 4, largeEnd := field locator 8 8 }

/-- An entry of the directory. -/
structure Entry where
  name : String
  isEncrypted : Bool
  /-- Whether an extra field says that the file is sealed with a cipher. -/
  isSealed : Bool
  method : Nat
  checksum : UInt32
  /-- The size of what is stored for the file. -/
  size : Nat
  /-- The size the content of the file should have. -/
  contentSize : Nat
  /-- Where the header before the file is, counted from the start of the archive. -/
  header : Nat
  /-- The bytes of the extra fields. -/
  extra : Array Byte
  deriving DecidableEq, Repr

/-- Reads an entry and answers the position behind it. A flag says how its name is stored. The
extra fields are left as they are. -/
def Entry.read? (bytes : Array Byte) (position : Nat) : Option (Entry × Nat) := do
  let record ← slice? bytes position 46
  let flags := field record 8 2
  let name ← slice? bytes (position + 46) (field record 28 2)
  let behindName := position + 46 + name.size
  let extra ← slice? bytes behindName (field record 30 2)
  let behindExtra := behindName + extra.size
  let comment ← slice? bytes behindExtra (field record 32 2)
  let entry : Entry := {
    name := if flags.testBit 11 then Utf8.text name.toList else CodePage437.text name.toList
    isEncrypted := flags.testBit 0
    isSealed := false
    method := field record 10 2
    checksum := UInt32.ofNat (field record 16 4)
    size := field record 20 4
    contentSize := field record 24 4
    header := field record 42 4
    extra }
  return (entry, behindExtra + comment.size)

/-- Where the file behind a header starts. The header counts for its size only. -/
def fileStart? (bytes : Array Byte) (position : Nat) : Option Nat := do
  let record ← slice? bytes position 30
  return position + 30 + field record 26 2 + field record 28 2

end ChipEight.Archive
