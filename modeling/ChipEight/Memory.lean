import ChipEight.Font
import ChipEight.Cartridge

/-!
# Memory

The memory has 4096 bytes. The font fills its start and is protected: a write into it is
dropped. A program stands from address 512 on; everything else starts out as zero.
-/

namespace ChipEight

/-- All bytes, by address. -/
structure Memory where
  cells : Vector Byte 4096
  deriving DecidableEq

namespace Memory

/-- The byte at an address. -/
def read (memory : Memory) (address : Address) : Byte := memory.cells[address]

/-- Stores a byte, except that the font keeps its bytes. -/
def write (memory : Memory) (address : Address) (byte : Byte) : Memory :=
  if Font.covers address then memory else ⟨memory.cells.set address byte⟩

/-- Stores several bytes, one after the other. -/
def writeAll (memory : Memory) (writes : List (Address × Byte)) : Memory :=
  writes.foldl (fun memory (address, byte) => memory.write address byte) memory

/-- The word at an address. Its low byte has to lie in the memory as well. -/
def word (memory : Memory) (address : Address) : Except WordError Word :=
  Word.read memory.cells.toArray address.val

/-- What an address holds when a program has just been loaded. -/
def initialByte (program : Array Byte) (address : Nat) : Byte :=
  if _inFont : address < 80 then Font.bytes[address]
  else if address < programStart then 0
  else program[address - programStart]?.getD 0

/-- The font, the program and zeros elsewhere. -/
def load (program : Array Byte) : Memory :=
  ⟨Vector.ofFn fun address => initialByte program address.val⟩

/-- Every address of a freshly loaded memory holds its initial byte. -/
theorem read_load (program : Array Byte) (address : Address) :
    (load program).read address = initialByte program address.val :=
  Vector.getElem_ofFn address.isLt

end Memory
end ChipEight
