import ChipEight.Proofs.Machine.Effects

/-!
# A machine without ranges

The types of the machine leave no room for an address past the memory, a seventeenth register
or a seventeenth return address. A raw machine has no such types. Its counters, addresses,
register numbers and keys are plain numbers, and its memory, registers and keys are arrays of
any size. Where the machine relies on a type, a raw machine masks a number to twelve bits or
looks before it reads and writes: an access that finds nothing answers `none`, and nothing
else does. A failing cycle is not such an answer; it succeeds with a fault.

`Machine.raw` forgets the ranges of a machine. That no access of a raw machine reached from a
loaded program finds nothing is the subject of `Proofs.Machine.Range`. The screen is the same
on both sides: its coordinates wrap for every number.
-/

namespace ChipEight

/-- A machine made of plain numbers. The latest return address comes first. -/
structure RawMachine where
  name : String
  memory : Array Byte
  registers : Array Byte
  index : Nat
  pc : Nat
  opcode : Word
  stack : List Nat
  timers : Timers
  screen : Screen
  keys : Array Bool
  entropy : Entropy

/-- The low twelve bits of a number. -/
def mask (number : Nat) : Nat := number &&& 0xFFF

/-- The counter after a move. A step back is taken on 64 bits, where it may wrap, and masked
like every other move. -/
def Move.land (move : Move) (pc : Nat) : Nat :=
  match move with
  | next => mask pc
  | skip => mask (pc + 2)
  | jump target => mask target
  | again => mask ((pc + (UInt64.size - 2)) % UInt64.size)

namespace RawMachine

/-- The byte in a register, if there is one of that number. -/
def register? (machine : RawMachine) (register : Nat) : Option Byte := machine.registers[register]?

/-- Stores a byte in a register, if there is one of that number. -/
def setRegister? (machine : RawMachine) (register : Nat) (byte : Byte) : Option RawMachine :=
  if inside : register < machine.registers.size then
    some { machine with registers := machine.registers.set register byte }
  else none

/-- The byte at a masked address, if the memory reaches that far. -/
def read? (machine : RawMachine) (address : Nat) : Option Byte := machine.memory[mask address]?

/-- Stores a byte at a masked address, if the memory reaches that far. A write into the font is
dropped before the memory is looked at. -/
def write? (machine : RawMachine) (address : Nat) (byte : Byte) : Option RawMachine :=
  if mask address < 80 then some machine
  else if inside : mask address < machine.memory.size then
    some { machine with memory := machine.memory.set (mask address) byte }
  else none

/-- Whether the key of a lower digit is down, if there is such a key. -/
def isDown? (machine : RawMachine) (number : Nat) : Option Bool := machine.keys[number % 16]?

/-- Moves a key. Only the numbers of keys are accepted. -/
def setKey? (machine : RawMachine) (key : Nat) (isDown : Bool) : Option RawMachine :=
  if inside : key < 16 ∧ key < machine.keys.size then
    some { machine with keys := machine.keys.set key isDown inside.2 }
  else none

/-- Moves the program counter. -/
def step (machine : RawMachine) (move : Move) : RawMachine :=
  { machine with pc := move.land machine.pc }

/-- One tick of both timers. -/
def tick (machine : RawMachine) : RawMachine := { machine with timers := machine.timers.tick }

/-- Stores the result of an operation, then its flag in the last register. -/
def setResult? (machine : RawMachine) (x : Nat) (result : Byte × Option Byte) :
    Option RawMachine := do
  let stored ← machine.setRegister? x result.1
  match result.2 with
  | some flag => stored.setRegister? 15 flag
  | none => some stored

/-- Draws the rows found from the index register on, then reports a collision. -/
def drawSprite? (machine : RawMachine) (x y rows : Nat) : Option RawMachine := do
  let column ← machine.register? x
  let row ← machine.register? y
  let sprite ← (List.range rows).mapM fun offset => machine.read? (machine.index + offset)
  let drawn := machine.screen.draw column.toNat row.toNat sprite
  setRegister? { machine with screen := drawn.1 } 15 (Byte.ofFlag drawn.2)

/-- Stores three digits one after the other. -/
def storeDecimal? (machine : RawMachine) (x : Nat) : Option RawMachine := do
  let value ← machine.register? x
  let hundreds ← machine.write? machine.index (value / 100)
  let tens ← hundreds.write? (machine.index + 1) (value / 10 % 10)
  tens.write? (machine.index + 2) (value % 10)

/-- Stores the registers up to `x`, one after the other. -/
def storeRegisters? (machine : RawMachine) (x : Nat) : Option RawMachine :=
  (List.range (x + 1)).foldlM
    (fun stored offset => do stored.write? (machine.index + offset) (← stored.register? offset))
    machine

/-- Loads the registers up to `x`, one after the other. -/
def loadRegisters? (machine : RawMachine) (x : Nat) : Option RawMachine :=
  (List.range (x + 1)).foldlM
    (fun loaded offset => do loaded.setRegister? offset (← loaded.read? (machine.index + offset)))
    machine

/-- A finished instruction moves the counter and has nothing to tell. -/
def finish (machine : RawMachine) (move : Move) : Option (Except Fault (RawMachine × Signal)) :=
  some (.ok (machine.step move, .quiet))

/-- Executes an instruction. -/
def execute? (machine : RawMachine) (instruction : Instruction) :
    Option (Except Fault (RawMachine × Signal)) :=
  match instruction with
  | .system _ => machine.finish .next
  | .clearScreen => some (.ok ({ machine with screen := .blank }.step .next, .drawn))
  | .ret =>
    match machine.stack with
    | address :: rest => { machine with stack := rest }.finish (.jump address)
    | [] => some (.error (.stack .empty))
  | .jump nnn => machine.finish (.jump nnn.val)
  | .call nnn =>
    if machine.stack.length < 16 then
      { machine with stack := machine.pc :: machine.stack }.finish (.jump nnn.val)
    else some (.error (.stack .full))
  | .skipEqual x nn => do machine.finish (.skipIf ((← machine.register? x.val) == nn))
  | .skipNotEqual x nn => do machine.finish (.skipIf ((← machine.register? x.val) != nn))
  | .skipSame x y => do
    machine.finish (.skipIf ((← machine.register? x.val) == (← machine.register? y.val)))
  | .load x nn => do (← machine.setRegister? x.val nn).finish .next
  | .add x nn => do
    (← machine.setRegister? x.val ((← machine.register? x.val) + nn)).finish .next
  | .arithmetic operation x y => do
    let result := operation.eval (← machine.register? x.val) (← machine.register? y.val)
    (← machine.setResult? x.val result).finish .next
  | .skipDifferent x y => do
    machine.finish (.skipIf ((← machine.register? x.val) != (← machine.register? y.val)))
  | .loadIndex nnn => { machine with index := nnn.val }.finish .next
  | .jumpOffset nnn => do machine.finish (.jump ((← machine.register? 0).toNat + nnn.val))
  | .random x nn => do
    let taken : RawMachine := { machine with entropy := machine.entropy.rest }
    (← taken.setRegister? x.val (nn &&& machine.entropy.byte)).finish .next
  | .draw x y n => do
    return .ok ((← machine.drawSprite? x.val y.val n.val).step .next, .drawn)
  | .skipDown x => do
    machine.finish (.skipIf (← machine.isDown? (← machine.register? x.val).toNat))
  | .skipUp x => do
    machine.finish (.skipIf (!(← machine.isDown? (← machine.register? x.val).toNat)))
  | .getDelay x => do (← machine.setRegister? x.val machine.timers.delay.toByte).finish .next
  | .awaitKey x =>
    match machine.keys.findIdx? id with
    | some key => do (← machine.setRegister? x.val (UInt8.ofNat key)).finish .next
    | none => some (.ok (machine.step .again, .waiting))
  | .setDelay x => do
    let value ← machine.register? x.val
    finish { machine with timers.delay := .ofByte value } .next
  | .setSound x => do
    let value ← machine.register? x.val
    finish { machine with timers.sound := .ofByte value } .next
  | .addIndex x => do
    let value ← machine.register? x.val
    finish { machine with index := mask (machine.index + value.toNat) } .next
  | .glyph x => do
    let value ← machine.register? x.val
    finish { machine with index := mask (Font.location + Font.glyphSize * value.toNat) } .next
  | .storeDecimal x => do (← machine.storeDecimal? x.val).finish .next
  | .storeRegisters x => do (← machine.storeRegisters? x.val).finish .next
  | .loadRegisters x => do (← machine.loadRegisters? x.val).finish .next

/-- The machine a cycle leaves, and its answer. -/
def cycle? (machine : RawMachine) : Option (RawMachine × Except Fault Signal) :=
  match Word.read machine.memory machine.pc with
  | .error cause => some (machine, .error (.word cause))
  | .ok word =>
    let ready := { machine with opcode := word, pc := mask (machine.pc + 2) }
    match Instruction.ofWord? word with
    | none => some (ready, .ok .quiet)
    | some instruction => do
      match ← ready.execute? instruction with
      | .error fault => return (ready, .error fault)
      | .ok (after, signal) => return (after, .ok signal)

/-- The machine an action leaves. A failed instruction leaves it as it was. -/
def act? (machine : RawMachine) : Action → Option RawMachine
  | .cycle => machine.cycle?.map Prod.fst
  | .execute instruction => do
    match ← machine.execute? instruction with
    | .error _ => return machine
    | .ok (after, _) => return after
  | .step move => some (machine.step move)
  | .tick => some machine.tick
  | .setKey key isDown => machine.setKey? key.val isDown
  | .setKeypad keypad => some { machine with keys := keypad.down.toArray }

/-- The machine after several actions, if every access on the way finds what it looks for. -/
def run? (machine : RawMachine) (actions : List Action) : Option RawMachine :=
  actions.foldlM act? machine

end RawMachine

/-- Forgets the ranges of a machine. -/
def Machine.raw (machine : Machine) : RawMachine where
  name := machine.name
  memory := machine.memory.cells.toArray
  registers := machine.registers.toArray
  index := machine.index.val
  pc := machine.pc.val
  opcode := machine.opcode
  stack := machine.stack.entries.map Fin.val
  timers := machine.timers
  screen := machine.screen
  keys := machine.keypad.down.toArray
  entropy := machine.entropy

end ChipEight
