import ChipEight.Instruction.Arithmetic

/-!
# Instructions

An instruction is decoded from one word. Decoding is partial: some words belong to no
instruction. `encode` is the other direction, the word an instruction is written as.

The routines `0NNN` share their family with `00E0` and `00EE`, so those two words are taken
out first; a `system` instruction with one of their addresses has no word of its own.
-/

namespace ChipEight

/-- The instruction set. Operands are named after the fields of the word. -/
inductive Instruction
  /-- `0NNN`: a routine of the host, which this machine has not. -/
  | system (nnn : Address)
  /-- `00E0` -/
  | clearScreen
  /-- `00EE` -/
  | ret
  /-- `1NNN` -/
  | jump (nnn : Address)
  /-- `2NNN` -/
  | call (nnn : Address)
  /-- `3XNN`: skips if `VX` is `NN`. -/
  | skipEqual (x : Register) (nn : Byte)
  /-- `4XNN`: skips if `VX` is not `NN`. -/
  | skipNotEqual (x : Register) (nn : Byte)
  /-- `5XY0`: skips if `VX` is `VY`. -/
  | skipSame (x y : Register)
  /-- `6XNN`: sets `VX`. -/
  | load (x : Register) (nn : Byte)
  /-- `7XNN`: adds to `VX` and reports no carry. -/
  | add (x : Register) (nn : Byte)
  /-- `8XYN` -/
  | arithmetic (operation : Arithmetic) (x y : Register)
  /-- `9XY0`: skips if `VX` is not `VY`. -/
  | skipDifferent (x y : Register)
  /-- `ANNN`: sets `I`. -/
  | loadIndex (nnn : Address)
  /-- `BNNN`: continues `V0` past `NNN`. -/
  | jumpOffset (nnn : Address)
  /-- `CXNN`: a random byte, masked. -/
  | random (x : Register) (nn : Byte)
  /-- `DXYN`: draws `N` rows from `I`. -/
  | draw (x y : Register) (n : Fin 16)
  /-- `EX9E`: skips while the key in `VX` is down. -/
  | skipDown (x : Register)
  /-- `EXA1`: skips while the key in `VX` is up. -/
  | skipUp (x : Register)
  /-- `FX07`: reads the delay timer. -/
  | getDelay (x : Register)
  /-- `FX0A`: waits for a key and stores it. -/
  | awaitKey (x : Register)
  /-- `FX15`: sets the delay timer. -/
  | setDelay (x : Register)
  /-- `FX18`: sets the sound timer. -/
  | setSound (x : Register)
  /-- `FX1E`: moves `I` forward by `VX`. -/
  | addIndex (x : Register)
  /-- `FX29`: points `I` at the glyph of `VX`. -/
  | glyph (x : Register)
  /-- `FX33`: stores the three decimal digits of `VX` at `I`. -/
  | storeDecimal (x : Register)
  /-- `FX55`: stores `V0` to `VX` at `I`. -/
  | storeRegisters (x : Register)
  /-- `FX65`: loads `V0` to `VX` from `I`. -/
  | loadRegisters (x : Register)
  deriving DecidableEq, Repr

namespace Instruction

/-- The family `EXNN` asks for a key. -/
def ofKeyWord? (x : Register) : Byte → Option Instruction
  | 0x9E => some (skipDown x)
  | 0xA1 => some (skipUp x)
  | _ => none

/-- The family `FXNN` reaches timers, keys and memory. -/
def ofDeviceWord? (x : Register) : Byte → Option Instruction
  | 0x07 => some (getDelay x)
  | 0x0A => some (awaitKey x)
  | 0x15 => some (setDelay x)
  | 0x18 => some (setSound x)
  | 0x1E => some (addIndex x)
  | 0x29 => some (glyph x)
  | 0x33 => some (storeDecimal x)
  | 0x55 => some (storeRegisters x)
  | 0x65 => some (loadRegisters x)
  | _ => none

/-- The instruction a word stands for, if any. The last family is `FXNN`. -/
def ofWord? (word : Word) : Option Instruction :=
  match word.family with
  | 0x0 => some <|
      if word = 0x00E0 then clearScreen
      else if word = 0x00EE then ret
      else system word.address
  | 0x1 => some (jump word.address)
  | 0x2 => some (call word.address)
  | 0x3 => some (skipEqual word.x word.byte)
  | 0x4 => some (skipNotEqual word.x word.byte)
  | 0x5 => if word.n = 0 then some (skipSame word.x word.y) else none
  | 0x6 => some (load word.x word.byte)
  | 0x7 => some (add word.x word.byte)
  | 0x8 => (Arithmetic.ofCode? word.n).map fun operation => arithmetic operation word.x word.y
  | 0x9 => if word.n = 0 then some (skipDifferent word.x word.y) else none
  | 0xA => some (loadIndex word.address)
  | 0xB => some (jumpOffset word.address)
  | 0xC => some (random word.x word.byte)
  | 0xD => some (draw word.x word.y word.n)
  | 0xE => ofKeyWord? word.x word.byte
  | _ => ofDeviceWord? word.x word.byte

/-- Decoding refuses exactly the words that stand for nothing. -/
def decode (word : Word) : Except WordError Instruction :=
  match ofWord? word with
  | some instruction => .ok instruction
  | none => .error (.unsupported word)

/-- A word of the form `TNNN`. -/
def addressWord (family : Nat) (nnn : Address) : Word :=
  UInt16.ofNat (family * 4096 + nnn.val)

/-- A word of the form `TXNN`. -/
def byteWord (family : Nat) (x : Register) (nn : Byte) : Word :=
  UInt16.ofNat (family * 4096 + x.val * 256 + nn.toNat)

/-- A word of the form `TXYN`. -/
def pairWord (family : Nat) (x y : Register) (n : Fin 16) : Word :=
  UInt16.ofNat (family * 4096 + x.val * 256 + y.val * 16 + n.val)

/-- The word an instruction is written as. -/
def encode : Instruction → Word
  | system nnn => addressWord 0x0 nnn
  | clearScreen => 0x00E0
  | ret => 0x00EE
  | jump nnn => addressWord 0x1 nnn
  | call nnn => addressWord 0x2 nnn
  | skipEqual x nn => byteWord 0x3 x nn
  | skipNotEqual x nn => byteWord 0x4 x nn
  | skipSame x y => pairWord 0x5 x y 0
  | load x nn => byteWord 0x6 x nn
  | add x nn => byteWord 0x7 x nn
  | arithmetic operation x y => pairWord 0x8 x y operation.code
  | skipDifferent x y => pairWord 0x9 x y 0
  | loadIndex nnn => addressWord 0xA nnn
  | jumpOffset nnn => addressWord 0xB nnn
  | random x nn => byteWord 0xC x nn
  | draw x y n => pairWord 0xD x y n
  | skipDown x => byteWord 0xE x 0x9E
  | skipUp x => byteWord 0xE x 0xA1
  | getDelay x => byteWord 0xF x 0x07
  | awaitKey x => byteWord 0xF x 0x0A
  | setDelay x => byteWord 0xF x 0x15
  | setSound x => byteWord 0xF x 0x18
  | addIndex x => byteWord 0xF x 0x1E
  | glyph x => byteWord 0xF x 0x29
  | storeDecimal x => byteWord 0xF x 0x33
  | storeRegisters x => byteWord 0xF x 0x55
  | loadRegisters x => byteWord 0xF x 0x65

end Instruction
end ChipEight
