import ChipEight.Machine
import ChipEight.Instruction
import ChipEight.Fault

/-!
# Executing one instruction

An instruction finds the program counter past itself, changes the machine and moves the
counter. Only a call and a return can fail; a failed instruction leaves the machine as it
found it. A successful one tells whether the screen changed or a key is awaited.
-/

namespace ChipEight

/-- What an instruction tells the outside. -/
inductive Signal
  /-- Nothing to act upon. -/
  | quiet
  /-- A key is awaited and none is down. -/
  | waiting
  /-- The screen was drawn on or cleared. -/
  | drawn
  deriving DecidableEq, Repr

namespace Machine

/-- The bytes an instruction stores, each with its address, in order. Nothing else writes
into memory. -/
def stores (machine : Machine) : Instruction → List (Address × Byte)
  | .storeDecimal x =>
    let value := machine.register x
    [(machine.index, value / 100), (machine.index + 1, value / 10 % 10), (machine.index + 2, value % 10)]
  | .storeRegisters x =>
    ((List.finRange 16).filter (· ≤ x)).map fun register =>
      (machine.index + Fin.ofNat 4096 register.val, machine.register register)
  | _ => []

/-- The rows of a sprite, from the index register on. -/
def sprite (machine : Machine) (rows : Fin 16) : List Byte :=
  (List.range rows.val).map fun row => machine.memory.read (machine.index + Fin.ofNat 4096 row)

/-- Stores the result of an operation on two registers, then its flag if it has one. -/
def setResult (machine : Machine) (x : Register) (result : Byte × Option Byte) : Machine :=
  let stored := machine.setRegister x result.1
  match result.2 with
  | some flag => stored.setRegister flagRegister flag
  | none => stored

/-- Draws a sprite at the place two registers name. The place is read before the collision
is reported in `VF`, which may be one of the two. -/
def drawSprite (machine : Machine) (x y : Register) (rows : Fin 16) : Machine :=
  let (screen, hit) := machine.screen.draw
    (machine.register x).toNat (machine.register y).toNat (machine.sprite rows)
  { machine with screen }.setRegister flagRegister (Byte.ofFlag hit)

/-- The registers up to `x` from memory, the others as they are. -/
def loadedRegisters (machine : Machine) (x : Register) : Vector Byte 16 :=
  Vector.ofFn fun register =>
    if register ≤ x then machine.memory.read (machine.index + Fin.ofNat 4096 register.val)
    else machine.register register

/-- A finished instruction moves the counter and has nothing to tell. -/
def finish (machine : Machine) (move : Move) : Except Fault (Machine × Signal) :=
  .ok (machine.step move, .quiet)

/-- Executes an instruction. -/
def execute (machine : Machine) (instruction : Instruction) : Except Fault (Machine × Signal) :=
  match instruction with
  | .system _ => machine.finish .next
  | .clearScreen => .ok ({ machine with screen := .blank }.step .next, .drawn)
  | .ret =>
    match machine.stack.pop? with
    | some (address, stack) => { machine with stack }.finish (.jump address.val)
    | none => .error (.stack .empty)
  | .jump nnn => machine.finish (.jump nnn.val)
  | .call nnn =>
    match machine.stack.push? machine.pc with
    | some stack => { machine with stack }.finish (.jump nnn.val)
    | none => .error (.stack .full)
  | .skipEqual x nn => machine.finish (.skipIf (machine.register x == nn))
  | .skipNotEqual x nn => machine.finish (.skipIf (machine.register x != nn))
  | .skipSame x y => machine.finish (.skipIf (machine.register x == machine.register y))
  | .load x nn => (machine.setRegister x nn).finish .next
  | .add x nn => (machine.setRegister x (machine.register x + nn)).finish .next
  | .arithmetic operation x y =>
    (machine.setResult x (operation.eval (machine.register x) (machine.register y))).finish .next
  | .skipDifferent x y => machine.finish (.skipIf (machine.register x != machine.register y))
  | .loadIndex nnn => { machine with index := nnn }.finish .next
  | .jumpOffset nnn => machine.finish (.jump ((machine.register 0).toNat + nnn.val))
  | .random x nn =>
    ({ machine with entropy := machine.entropy.rest }.setRegister x
      (nn &&& machine.entropy.byte)).finish .next
  | .draw x y n => .ok ((machine.drawSprite x y n).step .next, .drawn)
  | .skipDown x => machine.finish (.skipIf (machine.keypad.isDown (Key.ofByte (machine.register x))))
  | .skipUp x => machine.finish (.skipIf (!machine.keypad.isDown (Key.ofByte (machine.register x))))
  | .getDelay x => (machine.setRegister x machine.timers.delay.toByte).finish .next
  | .awaitKey x =>
    match machine.keypad.firstDown? with
    | some key => (machine.setRegister x (UInt8.ofNat key.val)).finish .next
    | none => .ok (machine.step .again, .waiting)
  | .setDelay x =>
    { machine with timers.delay := .ofByte (machine.register x) }.finish .next
  | .setSound x =>
    { machine with timers.sound := .ofByte (machine.register x) }.finish .next
  | .addIndex x =>
    { machine with index := machine.index + Address.ofByte (machine.register x) }.finish .next
  | .glyph x => { machine with index := Font.glyphAddress (machine.register x) }.finish .next
  | .storeDecimal x =>
    { machine with memory := machine.memory.writeAll (machine.stores (.storeDecimal x)) }.finish .next
  | .storeRegisters x =>
    { machine with memory := machine.memory.writeAll (machine.stores (.storeRegisters x)) }.finish .next
  | .loadRegisters x => { machine with registers := machine.loadedRegisters x }.finish .next

end Machine
end ChipEight
