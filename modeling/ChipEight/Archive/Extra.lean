import ChipEight.Archive.Error
import ChipEight.Archive.Record

/-!
# Extra fields

An entry may bring extra fields along, each a kind, a length and so many bytes. Two kinds
matter. One holds the numbers that do not fit into the entry. The other one says that the file
is sealed with a cipher, and how it was packed before. All other kinds are passed over.

Extra fields that end too early are no error. What was taken of them until then counts.
-/

namespace ChipEight.Archive

/-- The kind of the field with the numbers that do not fit. -/
def largeKind : Nat := 0x0001

/-- The kind of the field about a cipher. -/
def cipherKind : Nat := 0x9901

/-- The method number of a file that is sealed with a cipher. -/
def cipherMethod : Nat := 99

/-- The length of a field about a cipher. -/
def cipherLength : Nat := 7

/-- The two letters in a field about a cipher that tell who made it up. -/
def cipherMaker : Nat := 0x4541

/-- A number of an entry, or the large one that is at a position instead, and the position
behind what was taken. -/
def fitted? (extra : Array Byte) (position number : Nat) : Option (Nat × Nat) :=
  if number = unfit 4 then (number? extra position 8).map fun large => (large, position + 8)
  else some (number, position)

namespace Entry

/-- Takes the numbers that do not fit. They are given in a fixed order, and those that do fit
are left out. Where the bytes end there is no position to go on at. -/
def withLarge (entry : Entry) (position : Nat) : Entry × Option Nat :=
  match fitted? entry.extra position entry.contentSize with
  | none => (entry, none)
  | some (contentSize, position) =>
    match fitted? entry.extra position entry.size with
    | none => ({ entry with contentSize }, none)
    | some (size, position) =>
      match fitted? entry.extra position entry.header with
      | none => ({ entry with contentSize, size }, none)
      | some (header, position) => ({ entry with contentSize, size, header }, some position)

/-- Takes a field about a cipher. It has a version, a maker, a strength and the method the file
was packed with. -/
def withCipher (entry : Entry) (position length : Nat) :
    Except ArchiveError (Entry × Option Nat) := do
  if length ≠ cipherLength then throw .cipherLength
  match slice? entry.extra position cipherLength with
  | none => return (entry, none)
  | some record =>
    if field record 2 2 ≠ cipherMaker then throw .cipherMaker
    if ¬ field record 0 2 ∈ [1, 2] then throw .cipherVersion
    if ¬ field record 4 1 ∈ [1, 2, 3] then throw .cipherStrength
    return ({ entry with isSealed := true, method := field record 5 2 },
      some (position + cipherLength))

/-- Takes the extra fields from a position on. Each of them has four bytes at least, so the
count of the bytes bounds them. What is left of the length of a field is passed over; a field
about a cipher counts as not taken at all, and as many bytes behind it are passed over. -/
def withExtra : (bound position : Nat) → Entry → Except ArchiveError Entry
  | 0, _, entry => return entry
  | bound + 1, position, entry =>
    match number? entry.extra position 2, number? entry.extra (position + 2) 2 with
    | some kind, some length => do
      let start := position + 4
      if kind = largeKind then
        match entry.withLarge start with
        | (entry, none) => return entry
        | (entry, some position) => withExtra bound (max position (start + length)) entry
      else if kind = cipherKind then
        match ← entry.withCipher start length with
        | (entry, none) => return entry
        | (entry, some position) => withExtra bound (position + length) entry
      else withExtra bound (start + length) entry
    | _, _ => return entry

/-- What an entry says together with its extra fields. -/
def completed (entry : Entry) : Except ArchiveError Entry := do
  let entry ← entry.withExtra entry.extra.size 0
  if entry.method = cipherMethod && !entry.isSealed then throw .cipherMissing
  return entry

end Entry
end ChipEight.Archive
