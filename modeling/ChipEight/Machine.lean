import ChipEight.Memory
import ChipEight.CallStack
import ChipEight.Countdown
import ChipEight.Screen
import ChipEight.Keypad
import ChipEight.Entropy
import ChipEight.Move

/-!
# The machine

The whole state of a machine at one instant, and the changes that are made to it from
outside: the timers tick, keys move, and the program counter is moved by hand.
-/

namespace ChipEight

/-- A machine. `opcode` is the word fetched last, zero before the first fetch. -/
structure Machine where
  name : String
  memory : Memory
  registers : Vector Byte 16
  index : Address
  pc : Address
  opcode : Word
  stack : CallStack
  timers : Timers
  screen : Screen
  keypad : Keypad
  entropy : Entropy

namespace Machine

/-- A machine with a cartridge in it, before its first cycle. -/
def boot (cartridge : Cartridge) (entropy : Entropy) : Machine where
  name := cartridge.name
  memory := Memory.load cartridge.data
  registers := Vector.replicate 16 0
  index := 0
  pc := Fin.ofNat 4096 programStart
  opcode := 0
  stack := .empty
  timers := .finished
  screen := .blank
  keypad := .released
  entropy := entropy

/-- The byte in a register. -/
def register (machine : Machine) (register : Register) : Byte := machine.registers[register]

/-- Stores a byte in a register. -/
def setRegister (machine : Machine) (register : Register) (byte : Byte) : Machine :=
  { machine with registers := machine.registers.set register byte }

/-- What a machine holds in a register depends on its registers alone. -/
theorem register_congr {machine other : Machine} (same : machine.registers = other.registers)
    (number : Register) : machine.register number = other.register number := by
  rw [register, register, same]

/-- A byte is found in the register it was stored in; the other registers hold what they held. -/
theorem register_setRegister (machine : Machine) (number other : Register) (byte : Byte) :
    (machine.setRegister number byte).register other =
      if other = number then byte else machine.register other := by
  by_cases same : other = number
  · subst same
    simp [register, setRegister]
  · have apart : number.val ≠ other.val := fun equal => same (Fin.ext equal.symm)
    simp [register, setRegister, same, Vector.getElem_set_ne _ _ apart]

/-- `VF`, which also reports carries and collisions. -/
def flagRegister : Register := 0xF

/-- Moves the program counter. -/
def step (machine : Machine) (move : Move) : Machine := { machine with pc := move.apply machine.pc }

/-- One tick of both timers. -/
def tick (machine : Machine) : Machine := { machine with timers := machine.timers.tick }

/-- Many ticks of both timers. -/
def ticks (machine : Machine) (count : Nat) : Machine :=
  { machine with timers := machine.timers.ticks count }

/-- Moves one key. -/
def setKey (machine : Machine) (key : Key) (isDown : Bool) : Machine :=
  { machine with keypad := machine.keypad.set key isDown }

/-- Replaces the state of all keys. -/
def setKeypad (machine : Machine) (keypad : Keypad) : Machine := { machine with keypad }

/-- Whether the tone sounds. -/
def isBeeping (machine : Machine) : Bool := machine.timers.isBeeping

end Machine
end ChipEight
