/-!
# Words of a program

A program is a sequence of bytes; an instruction occupies two of them, the high byte first.
This module holds the units every other part speaks about, the fields an instruction word
is cut into, and the reading of one word out of a sequence of bytes.

The four hexadecimal digits of a word are called `T`, `X`, `Y` and `N`; `NN` is the low
byte and `NNN` the low twelve bits.
-/

namespace ChipEight

/-- The unit of memory and of the data registers. -/
abbrev Byte := UInt8

/-- Two bytes, the size of an instruction. -/
abbrev Word := UInt16

/-- A place in memory. Address arithmetic wraps around the end of the memory. -/
abbrev Address := Fin 4096

/-- The index of one of the sixteen data registers `V0` to `VF`. -/
abbrev Register := Fin 16

/-- A key of the hexadecimal pad. -/
abbrev Key := Fin 16

/-- There are addresses, so that every number wraps to one. -/
instance instNeZeroAddress : @NeZero Nat Zero.ofOfNat0 4096 := ⟨by decide⟩

/-- There are registers and keys, so that every number wraps to one. -/
instance instNeZeroKey : @NeZero Nat Zero.ofOfNat0 16 := ⟨by decide⟩

/-- The number a truth value leaves in a flag register. -/
def Byte.ofFlag (set : Bool) : Byte := if set then 1 else 0

/-- A byte names a key by its lower digit. -/
def Key.ofByte (byte : Byte) : Key := Fin.ofNat 16 byte.toNat

/-- A byte as a distance or place in memory. -/
def Address.ofByte (byte : Byte) : Address := Fin.ofNat 4096 byte.toNat

namespace Word

/-- The high byte comes first. -/
def ofBytes (high low : Byte) : Word := UInt16.ofNat (high.toNat * 256 + low.toNat)

/-- `T`, the digit that selects the family of an instruction. -/
def family (word : Word) : Fin 16 := Fin.ofNat 16 (word.toNat / 4096)

/-- `NNN`, the operand of the instructions that name a place in memory. -/
def address (word : Word) : Address := Fin.ofNat 4096 word.toNat

/-- `X`, the first register operand. -/
def x (word : Word) : Register := Fin.ofNat 16 (word.toNat / 256)

/-- `Y`, the second register operand. -/
def y (word : Word) : Register := Fin.ofNat 16 (word.toNat / 16)

/-- `N`, the lowest digit. -/
def n (word : Word) : Fin 16 := Fin.ofNat 16 word.toNat

/-- `NN`, the operand of the instructions with a constant. -/
def byte (word : Word) : Byte := UInt8.ofNat word.toNat

end Word

/-- Why there is no instruction at a place. -/
inductive WordError
  /-- The word is in no family of the instruction set. -/
  | unsupported (word : Word)
  /-- One of the two bytes at `pointer` lies past the `size` bytes there are. -/
  | outOfRange (pointer size : Nat)
  deriving DecidableEq, Repr

/-- Reads the word at a place. Both of its bytes have to be there. -/
def Word.read (bytes : Array Byte) (pointer : Nat) : Except WordError Word :=
  match bytes[pointer]?, bytes[pointer + 1]? with
  | some high, some low => .ok (Word.ofBytes high low)
  | _, _ => .error (.outOfRange pointer bytes.size)

end ChipEight
