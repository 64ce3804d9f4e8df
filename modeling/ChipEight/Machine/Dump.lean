import ChipEight.Machine
import ChipEight.Text.Hex

/-!
# The dump of a machine

A dump writes the whole state of a machine down, in titled sections of indented rows. Memory
is listed sixteen bytes a row, as eight words; neighbouring rows that hold only zeros are
merged into one. The memory listing is made as data first, a list of `MemoryRow`, and each
row is spelled by itself.

There are two ways to make the listing. `memoryRows` says what it is. `readRows` makes it line
by line from the first one, reads each word as an instruction is fetched, and gives up where a
word cannot be read.

The random source and the screen are not part of a dump. The name of the program is written
as it is, whatever characters it has.
-/

namespace ChipEight
namespace Dump

/-- A row of the memory listing. -/
inductive MemoryRow
  /-- Eight words from an address on, not all zero. -/
  | words (first : Nat) (content : List Word)
  /-- Only zeros, from the first to the last address. -/
  | zeros (first last : Nat)
  deriving DecidableEq, Repr

/-- The eight words of a line of sixteen bytes. -/
def lineWords (memory : Memory) (line : Nat) : List Word :=
  (List.range 8).map fun column =>
    let address := line * 16 + column * 2
    Word.ofBytes (memory.read (Fin.ofNat 4096 address)) (memory.read (Fin.ofNat 4096 (address + 1)))

/-- The row of a line with given words. -/
def rowOf (line : Nat) (content : List Word) : MemoryRow :=
  if content.all (· == 0) then .zeros (line * 16) (line * 16 + 15) else .words (line * 16) content

/-- The row of a single line. -/
def lineRow (memory : Memory) (line : Nat) : MemoryRow := rowOf line (lineWords memory line)

/-- Puts a row in front of others. Zeros join the zeros that follow them. -/
def addRow : MemoryRow → List MemoryRow → List MemoryRow
  | .zeros first _, .zeros _ last :: rows => .zeros first last :: rows
  | row, rows => row :: rows

/-- The listing of the memory. -/
def memoryRows (memory : Memory) : List MemoryRow :=
  ((List.range 256).map (lineRow memory)).foldr addRow []

/-- The words of a line, each read as an instruction is fetched. -/
def readLine (memory : Memory) (line : Nat) : Except WordError (List Word) :=
  (List.range 8).mapM fun column => Word.read memory.cells.toArray (line * 16 + column * 2)

/-- Puts a row behind the rows so far, the latest of them first. Zeros lengthen a latest row of
zeros. -/
def appendRow : List MemoryRow → MemoryRow → List MemoryRow
  | .zeros first _ :: rows, .zeros _ last => .zeros first last :: rows
  | rows, row => row :: rows

/-- Reads a line and puts its row behind the rows so far. -/
def appendLine (memory : Memory) (rows : List MemoryRow) (line : Nat) :
    Except WordError (List MemoryRow) := do
  let content ← readLine memory line
  return appendRow rows (rowOf line content)

/-- The listing made line by line, as far as all words can be read. -/
def readRows (memory : Memory) : Except WordError (List MemoryRow) := do
  let rows ← (List.range 256).foldlM (appendLine memory) []
  return rows.reverse

/-- All numbers of a dump have four digits. -/
def number (value : Nat) : String := Hex.text 4 value

/-- A row starts with the range of what it shows. -/
def span (first last : Nat) : String := number first ++ " - " ++ number last ++ " :"

/-- Stands for the words of merged rows and is as wide as eight of them. -/
def filler : String :=
  let gap := String.ofList (List.replicate 20 ' ')
  number 0 ++ gap ++ "..." ++ gap ++ number 0

/-- The text of a row of memory. -/
def MemoryRow.text : MemoryRow → String
  | .words first content =>
    span first (first + 15) ++ " " ++ " ".intercalate (content.map fun word => number word.toNat)
  | .zeros first last => span first last ++ " " ++ filler

/-- Sixteen cells in two rows of eight. -/
def cellRows (cells : List String) : List String :=
  [0, 8].map fun first =>
    span first (first + 7) ++ " " ++ " ".intercalate ((cells.drop first).take 8)

/-- A truth value is as wide as a number, except at the end of a row. -/
def keyCell (key : Key) (isDown : Bool) : String :=
  let word := if isDown then "true" else "false"
  if key.val % 8 = 7 then word else word ++ (if isDown then "  " else " ")

/-- The return addresses, oldest first. Free entries are shown as zero. -/
def stackCells (stack : CallStack) : List String :=
  let used := stack.oldestFirst.map fun address => number address.val
  used ++ List.replicate (16 - used.length) (number 0)

/-- The titled sections in the order they are written, with a listing of the memory. -/
def sections (machine : Machine) (listing : List MemoryRow) : List (String × List String) :=
  [("Program Name", [machine.name]),
   ("Opcode", [number machine.opcode.toNat]),
   ("Program Counter", [number machine.pc.val]),
   ("Index Register", [number machine.index.val]),
   ("Delay Timer", [number machine.timers.delay.toByte.toNat]),
   ("Sound Timer", [number machine.timers.sound.toByte.toNat]),
   ("Memory", listing.map MemoryRow.text),
   ("Keyboard", cellRows ((List.finRange 16).map fun key => keyCell key (machine.keypad.isDown key))),
   ("Stack", cellRows (stackCells machine.stack)),
   ("Register", cellRows (machine.registers.toList.map fun byte => number byte.toNat))]

/-- The lines of a section: the title one step in, its rows two. -/
def sectionLines : String × List String → List String
  | (title, rows) => ("\t" ++ title ++ " :") :: rows.map ("\t\t" ++ ·)

/-- The text of a machine with a listing of its memory. The last line has no line end. -/
def text (machine : Machine) (listing : List MemoryRow) : String :=
  "\n".intercalate
    (["Chipset \x7b"] ++ (sections machine listing).flatMap sectionLines ++ ["\x7d"])

end Dump

namespace Machine

/-- The state of a machine as text. -/
def dump (machine : Machine) : String := Dump.text machine (Dump.memoryRows machine.memory)

/-- The dump as it is made while the memory is read. -/
def dump? (machine : Machine) : Except WordError String := do
  let listing ← Dump.readRows machine.memory
  return Dump.text machine listing

end Machine

end ChipEight
