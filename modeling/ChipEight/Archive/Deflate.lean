import ChipEight.Archive.Huffman

/-!
# Deflated content

Deflated content is a sequence of bits in blocks. A block is stored as it is, or it is a
sequence of symbols in a prefix code: a byte, the end of the block, or the length of a piece
of earlier content that is repeated, followed by its distance in a second code. The codes are
fixed, or the block starts with the lengths of their words, which are in a third code.

Before the content there are zeros: a distance that leads there repeats them. What follows
the last block is not looked at.

Decoding fails in two ways only. The bits run out before the last block ends, or what they
say is impossible.
-/

namespace ChipEight

/-- Why content can not be decoded. -/
inductive DeflateError
  | corrupt
  | incomplete
  deriving DecidableEq, Repr

/-- Both reasons speak of the stream of bits. -/
def DeflateError.message : DeflateError → String
  | corrupt => "corrupt deflate stream"
  | incomplete => "incomplete deflate stream"

/-- A place in a sequence of bits. The lowest bit of a byte comes first. -/
structure BitReader where
  bytes : Array Byte
  position : Nat

/-- A computation that takes bits off a sequence. -/
abbrev Decoder := StateT BitReader (Except DeflateError)

namespace Deflate

/-- Takes the next bit. -/
def bit : Decoder Nat := fun reader =>
  match reader.bytes[reader.position / 8]? with
  | some byte =>
    .ok (byte.toNat >>> (reader.position % 8) % 2, { reader with position := reader.position + 1 })
  | none => .error .incomplete

/-- Takes a number, the lowest bit first. -/
def number : (count : Nat) → Decoder Nat
  | 0 => return 0
  | count + 1 => do
    let low ← bit
    return low + 2 * (← number count)

/-- Leaves out the bits up to the next byte. -/
def align : Decoder Unit :=
  modify fun reader => { reader with position := (reader.position + 7) / 8 * 8 }

/-- Takes the word of a symbol. `word` is what was taken of it so far and `first` the number of
the first word of the present length. After as many bits as the longest word has it is no word
of the code. -/
def symbolOf : List (Array Nat) → (word first : Nat) → Decoder Nat
  | [], _, _ => throw .corrupt
  | group :: longer, word, first => do
    let word := word + (← bit)
    match group[word - first]? with
    | some symbol => return symbol
    | none => symbolOf longer (2 * word) (2 * (first + group.size))

/-- Takes a symbol of a code. -/
def symbol (code : PrefixCode) : Decoder Nat := symbolOf code.groups 0 0

/-- A number that is given as its least value and the count of the bits to add. -/
structure Span where
  least : Nat
  extra : Nat

/-- The lengths of repeated pieces by their symbols. -/
def lengthSpans : Array Span :=
  #[⟨3, 0⟩, ⟨4, 0⟩, ⟨5, 0⟩, ⟨6, 0⟩, ⟨7, 0⟩, ⟨8, 0⟩, ⟨9, 0⟩, ⟨10, 0⟩, ⟨11, 1⟩, ⟨13, 1⟩, ⟨15, 1⟩,
    ⟨17, 1⟩, ⟨19, 2⟩, ⟨23, 2⟩, ⟨27, 2⟩, ⟨31, 2⟩, ⟨35, 3⟩, ⟨43, 3⟩, ⟨51, 3⟩, ⟨59, 3⟩, ⟨67, 4⟩,
    ⟨83, 4⟩, ⟨99, 4⟩, ⟨115, 4⟩, ⟨131, 5⟩, ⟨163, 5⟩, ⟨195, 5⟩, ⟨227, 5⟩, ⟨258, 0⟩]

/-- The distances of repeated pieces by their symbols. -/
def distanceSpans : Array Span :=
  #[⟨1, 0⟩, ⟨2, 0⟩, ⟨3, 0⟩, ⟨4, 0⟩, ⟨5, 1⟩, ⟨7, 1⟩, ⟨9, 2⟩, ⟨13, 2⟩, ⟨17, 3⟩, ⟨25, 3⟩, ⟨33, 4⟩,
    ⟨49, 4⟩, ⟨65, 5⟩, ⟨97, 5⟩, ⟨129, 6⟩, ⟨193, 6⟩, ⟨257, 7⟩, ⟨385, 7⟩, ⟨513, 8⟩, ⟨769, 8⟩,
    ⟨1025, 9⟩, ⟨1537, 9⟩, ⟨2049, 10⟩, ⟨3073, 10⟩, ⟨4097, 11⟩, ⟨6145, 11⟩, ⟨8193, 12⟩, ⟨12289, 12⟩,
    ⟨16385, 13⟩, ⟨24577, 13⟩]

/-- Takes the rest of a number whose symbol was taken. -/
def spanned (spans : Array Span) (symbol : Nat) : Decoder Nat :=
  match spans[symbol]? with
  | some span => return span.least + (← number span.extra)
  | none => throw .corrupt

/-- Appends earlier content again, byte by byte, so that a piece may overlap itself. -/
def repeated (content : Array Byte) (distance : Nat) : (length : Nat) → Array Byte
  | 0 => content
  | length + 1 =>
    let byte := if distance ≤ content.size then content.getD (content.size - distance) 0 else 0
    repeated (content.push byte) distance length

/-- The symbol that ends a block. Below it are the bytes, above it the lengths. -/
def endOfBlock : Nat := 256

/-- The two codes of a block. -/
structure Codes where
  literals : PrefixCode
  distances : PrefixCode

/-- The codes of a block that brings none along. -/
def Codes.fixed : Codes where
  literals := .ofLengths
    (List.replicate 144 8 ++ List.replicate 112 9 ++ List.replicate 24 7 ++ List.replicate 8 8)
  distances := .ofLengths (List.replicate 32 5)

/-- The content of a block in prefix codes, appended to earlier content. Every symbol takes
one bit at least, so a bound on the bits bounds the symbols. -/
def symbols (codes : Codes) : (bound : Nat) → Array Byte → Decoder (Array Byte)
  | 0, _ => throw .incomplete
  | bound + 1, content => do
    let symbol ← symbol codes.literals
    if symbol < endOfBlock then symbols codes bound (content.push (UInt8.ofNat symbol))
    else if symbol = endOfBlock then return content
    else
      let length ← spanned lengthSpans (symbol - endOfBlock - 1)
      let distance ← spanned distanceSpans (← Deflate.symbol codes.distances)
      symbols codes bound (repeated content distance length)

/-- The content of a stored block. Its length is given twice, the second time complemented. -/
def stored (content : Array Byte) : Decoder (Array Byte) := do
  align
  let length ← number 16
  let complement ← number 16
  if length + complement ≠ 0xFFFF then throw .corrupt
  let reader ← get
  let start := reader.position / 8
  if reader.bytes.size < start + length then throw .incomplete
  set { reader with position := reader.position + 8 * length }
  return content ++ reader.bytes.extract start (start + length)

/-- The symbols of the code for lengths, in the order in which the lengths of their own words
are given. -/
def lengthOrder : List Nat := [16, 17, 18, 0, 8, 7, 9, 6, 10, 5, 11, 4, 12, 3, 13, 2, 14, 1, 15]

/-- Takes the code for lengths. Symbols whose length is not given are not in use. It has to be
complete. -/
def lengthCode (count : Nat) : Decoder PrefixCode := do
  let given ← (List.replicate count 3).mapM number
  let lengths := lengthOrder.zip given
  let code := PrefixCode.ofLengths ((List.range 19).map fun symbol => (lengths.lookup symbol).getD 0)
  if code.isComplete then return code else throw .corrupt

/-- Takes lengths up to a total count. A symbol stands for one length, for the last length
again, or for some zeros; it stands for one at least, so the count that is left bounds the
symbols. Repetition may not go past the total. -/
def lengths (code : PrefixCode) (total : Nat) : (bound : Nat) → Array Nat → Decoder (Array Nat)
  | 0, taken => if taken.size = total then return taken else throw .corrupt
  | bound + 1, taken => do
    if taken.size = total then return taken
    if total < taken.size then throw .corrupt
    let symbol ← symbol code
    if symbol < 16 then lengths code total bound (taken.push symbol)
    else if symbol = 16 then
      match taken.back? with
      | none => throw .corrupt
      | some last => lengths code total bound (taken ++ Array.replicate (3 + (← number 2)) last)
    else if symbol = 17 then
      lengths code total bound (taken ++ Array.replicate (3 + (← number 3)) 0)
    else lengths code total bound (taken ++ Array.replicate (11 + (← number 7)) 0)

/-- A code of a block is complete or trivial. A block without repeated pieces has no use for
distances, and one that repeats at a single distance has one word for them. -/
def blockCode (lengths : List Nat) : Decoder PrefixCode :=
  let code := PrefixCode.ofLengths lengths
  if code.isComplete || code.isTrivial then return code else throw .corrupt

/-- Takes the codes of a block that brings its own. -/
def ownCodes : Decoder Codes := do
  let literals := 257 + (← number 5)
  let distances := 1 + (← number 5)
  let given := 4 + (← number 4)
  if 286 < literals || 30 < distances then throw .corrupt
  let total := literals + distances
  let lengths := (← lengths (← lengthCode given) total total #[]).toList
  return ⟨← blockCode (lengths.take literals), ← blockCode (lengths.drop literals)⟩

/-- The content of all blocks from here on, appended to earlier content. Every block takes bits
as well. -/
def blocks : (bound : Nat) → Array Byte → Decoder (Array Byte)
  | 0, _ => throw .incomplete
  | bound + 1, content => do
    let isLast ← bit
    let kind ← number 2
    let reader ← get
    let bits := 8 * reader.bytes.size
    let content ←
      match kind with
      | 0 => stored content
      | 1 => symbols .fixed bits content
      | 2 => symbols (← ownCodes) bits content
      | _ => throw .corrupt
    if isLast = 1 then return content else blocks bound content

/-- The content that was deflated to the given bytes. -/
def inflate (bytes : Array Byte) : Except DeflateError (Array Byte) :=
  ((blocks (8 * bytes.size + 1) #[]).run ⟨bytes, 0⟩).map Prod.fst

end Deflate
end ChipEight
