import ChipEight.Archive
import ChipEight.Cartridge.Load
import ChipEight.Machine
import Mathlib.Control.Monad.Basic

/-!
# Loading a program

The memory of a new machine is made by two copies into zeros: the font is copied to the start of
the memory, and the program to its own start. A copy fails if the bytes do not fill the range that
they are copied to, or if the range does not lie in the memory. The program of a cartridge always
lies there, with at least one byte behind it.

Content becomes a cartridge as it is handed over, from a file, or from an archive. Only its size
decides whether it does. Of a library for archives nothing is asked but that it keeps what it promises
of a file it can unpack: the content is what was packed, and has the size that was declared. An archive
that declares more than any buffer holds is the one thing that breaks loading down, whatever it unpacks.
-/

namespace ChipEight

namespace Memory

/-- The cells of a memory with a program in it: the font, zeros up to the start of programs, the
program, and zeros behind it. -/
def layout (program : Array Byte) : Array Byte :=
  Font.bytes.toArray ++ Array.replicate (programStart - 80) 0 ++ program ++
    Array.replicate (programRoom - program.size) 0

variable {program : Array Byte}

end Memory

namespace Machine

end Machine

namespace Cartridge

variable {name : String} {content : Array Byte} {answer : Attempt (Except LoadError Cartridge)}

end Cartridge
end ChipEight
