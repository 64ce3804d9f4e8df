import ChipEight.Fault
import ChipEight.Instruction.Spelling

/-!
# The journal

Parts of the machine and of the loops around it report what they do. A notice is the fact
that is reported; its level says how important it is and its text how it is written down.
-/

namespace ChipEight

/-- How important a notice is, the most important one first. -/
inductive Level
  | error
  | warn
  | info
  | debug
  | trace
  deriving DecidableEq, Repr

namespace Level

/-- Rank of a level; a journal kept up to some level holds the ranks up to its own. -/
def rank : Level → Nat
  | error => 1
  | warn => 2
  | info => 3
  | debug => 4
  | trace => 5

/-- The name of a level. -/
def name : Level → String
  | error => "ERROR"
  | warn => "WARN"
  | info => "INFO"
  | debug => "DEBUG"
  | trace => "TRACE"

end Level

/-- What can be reported. -/
inductive Notice
  /-- A machine was built around a program of some size. -/
  | created (name : String) (size : Nat)
  /-- A word without an instruction was passed over. -/
  | passedOver (address : Address) (word : Word)
  /-- A word is about to be executed. -/
  | executing (address : Address) (word : Word) (instruction : Instruction)
  /-- There are no routines of the host. -/
  | ignoredRoutine (address : Address)
  /-- A call; `returnAddress` is where it will come back to. -/
  | calling (target returnAddress : Address)
  /-- A return. -/
  | returning (target : Address)
  /-- A write into the font was dropped. -/
  | ignoredWrite (byte : Byte) (address : Address)
  /-- The program started to wait for a key. -/
  | awaitingKey
  /-- A cycle failed and left the program counter at an address. -/
  | stopped (address : Address) (fault : Fault)
  /-- The user wants to quit. -/
  | exitRequested
  /-- A key went down. -/
  | keyDown (key : Key)
  /-- A host key that stands for no key. -/
  | unmappedKey (host : Char)
  /-- A run started. -/
  | running (name : String) (hertz : Nat)
  /-- A run ended well. -/
  | ended (name : String)
  /-- A worker broke down. -/
  | workerPanicked
  /-- A program file was read. -/
  | loaded (name : String) (size : Nat)
  deriving DecidableEq

namespace Notice

/-- The level of every notice. -/
def level : Notice → Level
  | stopped .. | workerPanicked => .error
  | passedOver .. | ignoredWrite .. => .warn
  | exitRequested | running .. | ended .. | loaded .. => .info
  | created .. | ignoredRoutine .. | calling .. | returning .. | awaitingKey | keyDown ..
  | unmappedKey .. => .debug
  | executing .. => .trace

/-- Addresses and words have four digits, a byte two and a key one. -/
def text : Notice → String
  | created name size =>
    "Created chipset for '" ++ name ++ "' with " ++ size.repr ++ " program bytes"
  | passedOver address word =>
    (WordError.unsupported word).message ++ " Skipping it at " ++ Hex.text 4 address.val ++ "."
  | executing address word instruction =>
    Hex.text 4 address.val ++ ": " ++ Hex.text 4 word.toNat ++ " " ++ instruction.spelling.text
  | ignoredRoutine address => "Ignoring the machine code routine at " ++ Hex.text 4 address.val
  | calling target returnAddress =>
    "Calling " ++ Hex.text 4 target.val ++ " from " ++ Hex.text 4 returnAddress.val
  | returning target => "Returning to " ++ Hex.text 4 target.val
  | ignoredWrite byte address =>
    "Ignoring the write of " ++ Hex.text 2 byte.toNat ++ " into the font at "
      ++ Hex.text 4 address.val ++ "."
  | awaitingKey => "Waiting for a key press."
  | stopped address fault =>
    "The chip stopped at " ++ Hex.text 4 address.val ++ ": " ++ fault.message
  | exitRequested => "Exit requested."
  | keyDown key => "Key " ++ Hex.text 1 key.val ++ " down"
  | unmappedKey host => "The key '" ++ host.toString ++ "' is not mapped."
  | running name hertz => "Running '" ++ name ++ "' with " ++ hertz.repr ++ " hz"
  | ended name => "Stopped running '" ++ name ++ "'."
  | workerPanicked => "The worker thread panicked."
  | loaded name size => "Loaded rom '" ++ name ++ "' with " ++ size.repr ++ " bytes"

/-- Whether a journal kept up to a rank holds a notice. -/
def isKept (rank : Nat) (notice : Notice) : Bool := notice.level.rank ≤ rank

end Notice
end ChipEight
