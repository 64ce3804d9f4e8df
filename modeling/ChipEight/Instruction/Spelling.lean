import ChipEight.Instruction

/-!
# How instructions are spelled

The journal names an executed instruction and shows its operands as decimal numbers. Some
instructions are operations of one family and are spelled as the family followed by the
operation. Operands are grouped: an address, a register with a constant, two registers, a
sprite, or a lone register. The braces of a group are part of the text.
-/

namespace ChipEight

/-- The ways operands are grouped. -/
inductive Operands
  | none
  | address (nnn : Address)
  | value (x : Register) (nn : Byte)
  | pair (x y : Register)
  | sprite (x y : Register) (n : Fin 16)
  | register (x : Register)
  deriving DecidableEq, Repr

/-- The parts of a spelled instruction. -/
structure Spelling where
  name : String
  operation : Option String
  operands : Operands
  deriving DecidableEq, Repr

/-- A named group shows each operand after its name. -/
def Operands.group (name : String) (fields : List (String × Nat)) : String :=
  name ++ " \x7b " ++ ", ".intercalate (fields.map fun (field, number) => field ++ ": " ++ number.repr)
    ++ " \x7d"

/-- A lone register is a plain number; every other group carries its name. -/
def Operands.text : Operands → Option String
  | none => Option.none
  | address nnn => some (group "Address" [("nnn", nnn.val)])
  | value x nn => some (group "RegisterValue" [("x", x.val), ("nn", nn.toNat)])
  | pair x y => some (group "RegisterPair" [("x", x.val), ("y", y.val)])
  | sprite x y n => some (group "Sprite" [("x", x.val), ("y", y.val), ("n", n.val)])
  | register x => some x.val.repr

/-- What an instruction has besides its name follows in one pair of brackets. -/
def Spelling.text (spelling : Spelling) : String :=
  match spelling.operation.toList ++ spelling.operands.text.toList with
  | [] => spelling.name
  | parts => spelling.name ++ "(" ++ ", ".intercalate parts ++ ")"

/-- The name of an operation on two registers. -/
def Arithmetic.name : Arithmetic → String
  | assign => "Assign"
  | or => "Or"
  | and => "And"
  | xor => "Xor"
  | add => "Add"
  | sub => "Sub"
  | shiftRight => "ShiftRight"
  | subReverse => "SubReverse"
  | shiftLeft => "ShiftLeft"

namespace Instruction

/-- The key family and the device family name their operation in front of the register. -/
def familySpelling (family operation : String) (x : Register) : Spelling :=
  ⟨family, some operation, .register x⟩

/-- The spelling of every instruction. -/
def spelling : Instruction → Spelling
  | system nnn => ⟨"System", none, .address nnn⟩
  | clearScreen => ⟨"ClearScreen", none, .none⟩
  | ret => ⟨"Return", none, .none⟩
  | jump nnn => ⟨"Jump", none, .address nnn⟩
  | call nnn => ⟨"Call", none, .address nnn⟩
  | skipEqual x nn => ⟨"SkipEqual", none, .value x nn⟩
  | skipNotEqual x nn => ⟨"SkipNotEqual", none, .value x nn⟩
  | skipSame x y => ⟨"SkipRegistersEqual", none, .pair x y⟩
  | load x nn => ⟨"Load", none, .value x nn⟩
  | add x nn => ⟨"Add", none, .value x nn⟩
  | arithmetic operation x y => ⟨"Alu", some operation.name, .pair x y⟩
  | skipDifferent x y => ⟨"SkipRegistersNotEqual", none, .pair x y⟩
  | loadIndex nnn => ⟨"LoadIndex", none, .address nnn⟩
  | jumpOffset nnn => ⟨"JumpOffset", none, .address nnn⟩
  | random x nn => ⟨"Random", none, .value x nn⟩
  | draw x y n => ⟨"Draw", none, .sprite x y n⟩
  | skipDown x => familySpelling "SkipKey" "Pressed" x
  | skipUp x => familySpelling "SkipKey" "Released" x
  | getDelay x => familySpelling "Misc" "GetDelayTimer" x
  | awaitKey x => familySpelling "Misc" "AwaitKey" x
  | setDelay x => familySpelling "Misc" "SetDelayTimer" x
  | setSound x => familySpelling "Misc" "SetSoundTimer" x
  | addIndex x => familySpelling "Misc" "AddToIndex" x
  | glyph x => familySpelling "Misc" "FontGlyph" x
  | storeDecimal x => familySpelling "Misc" "StoreBcd" x
  | storeRegisters x => familySpelling "Misc" "StoreRegisters" x
  | loadRegisters x => familySpelling "Misc" "LoadRegisters" x

end Instruction
end ChipEight
