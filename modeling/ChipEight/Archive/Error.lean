/-!
# Errors of archives

Opening an archive or finding a file in it fails for one of these causes. Some say that the bytes
are no archive, some that the archive is one of a kind that is not supported.
-/

namespace ChipEight

/-- Why an archive can not be opened, or a file not be found in it. -/
inductive ArchiveError
  /-- There is no room for an end record. -/
  | tooShort
  | noEndRecord
  | severalDisks
  /-- The directory would start before the archive does, or out of reach. -/
  | misplacedDirectory
  /-- There is no room for a large end record before the locator that points to one. -/
  | noRoomForLargeEnd
  | noLargeEnd
  | badEntry
  /-- A header would be out of reach. -/
  | misplacedHeader
  | badHeader
  /-- A field about a cipher is not of the length it has to have. -/
  | cipherLength
  | cipherMaker
  | cipherVersion
  | cipherStrength
  /-- The method asks for a field about a cipher, and there is none. -/
  | cipherMissing
  /-- The bytes end inside of a record. -/
  | truncated
  | noSuchFile
  | encrypted
  | unsupportedMethod
  deriving DecidableEq, Repr

namespace ArchiveError

/-- The wording tells what is invalid from what is not supported. -/
def message : ArchiveError → String
  | tooShort => "invalid Zip archive: Invalid zip header"
  | noEndRecord => "invalid Zip archive: Could not find central directory end"
  | severalDisks => "unsupported Zip archive: Support for multi-disk files is not implemented"
  | misplacedDirectory => "invalid Zip archive: Invalid central directory size or offset"
  | noRoomForLargeEnd => "invalid Zip archive: File cannot contain ZIP64 central directory end"
  | noLargeEnd => "invalid Zip archive: Could not find ZIP64 central directory end"
  | badEntry => "invalid Zip archive: Invalid Central Directory header"
  | misplacedHeader => "invalid Zip archive: Archive header is too large"
  | badHeader => "invalid Zip archive: Invalid local file header"
  | cipherLength => "unsupported Zip archive: AES extra data field has an unsupported length"
  | cipherMaker => "invalid Zip archive: Invalid AES vendor"
  | cipherVersion => "invalid Zip archive: Invalid AES vendor version"
  | cipherStrength => "invalid Zip archive: Invalid AES encryption strength"
  | cipherMissing => "invalid Zip archive: AES encryption without AES extra data field"
  | truncated => "failed to fill whole buffer"
  | noSuchFile => "specified file not found in archive"
  | encrypted => "unsupported Zip archive: Password required to decrypt file"
  | unsupportedMethod => "unsupported Zip archive: Compression method not supported"

/-- What caused an error. Behind a truncated archive is a read that failed with the same
words. -/
def cause? : ArchiveError → Option String
  | truncated => some truncated.message
  | _ => none

end ArchiveError
end ChipEight
