import ChipEight.Proofs.Machine.Execution

/-!
# Arithmetic on registers

A register holds a byte, so a sum or a difference of two of them, or a byte that is shifted, may not
fit. What does not fit is the flag, and result and flag together are exact: one equation between
numbers holds for each operation, whatever the operands are.

The operands are read before anything is stored, and the flag is stored last. So the equations hold
as well if both operands are one register or if one of them is `VF`, and a result that is to be
stored in `VF` gives way to the flag.
-/

namespace ChipEight

namespace Byte

/-- A flag is a number as its truth value is. -/
theorem toNat_ofFlag (set : Bool) : (ofFlag set).toNat = set.toNat := by
  cases set <;> rfl

/-- A flag is a bit. -/
theorem ofFlag_le (set : Bool) : (ofFlag set).toNat ≤ 1 := by
  rw [toNat_ofFlag]
  exact Bool.toNat_le set

/-- A sum is its byte and its carry. -/
theorem add_carry (first second : Byte) :
    256 * (ofFlag (256 ≤ first.toNat + second.toNat)).toNat + (first + second).toNat =
      first.toNat + second.toNat := by
  have bound : first.toNat < 256 := first.toNat_lt
  have boundToo : second.toNat < 256 := second.toNat_lt
  rw [toNat_ofFlag, UInt8.toNat_add]
  by_cases carries : 256 ≤ first.toNat + second.toNat
  · rw [decide_eq_true carries, Bool.toNat_true]
    omega
  · rw [decide_eq_false carries, Bool.toNat_false]
    omega

/-- A difference that has to borrow is 256 more than it should be. The flag tells that nothing was
borrowed. -/
theorem sub_borrow (first second : Byte) :
    (first - second).toNat + second.toNat =
      first.toNat + 256 * (1 - (ofFlag (second.toNat ≤ first.toNat)).toNat) := by
  have bound : first.toNat < 256 := first.toNat_lt
  have boundToo : second.toNat < 256 := second.toNat_lt
  rw [toNat_ofFlag, UInt8.toNat_sub]
  by_cases fits : second.toNat ≤ first.toNat
  · rw [decide_eq_true fits, Bool.toNat_true]
    omega
  · rw [decide_eq_false fits, Bool.toNat_false]
    omega

/-- A byte is halved to the right; its lowest bit is what remains. -/
theorem shiftRight_rest (byte : Byte) :
    (byte &&& 1).toNat ≤ 1 ∧ byte.toNat = 2 * (byte >>> 1).toNat + (byte &&& 1).toNat := by
  have half : (byte >>> 1).toNat = byte.toNat / 2 := UInt8.toNat_shiftRight byte 1
  have rest : (byte &&& 1).toNat = byte.toNat % 2 :=
    (UInt8.toNat_and byte 1).trans (Nat.and_one_is_mod byte.toNat)
  omega

/-- A byte is doubled to the left; its highest bit is what does not fit. -/
theorem shiftLeft_rest (byte : Byte) :
    (byte >>> 7).toNat ≤ 1 ∧ 2 * byte.toNat = 256 * (byte >>> 7).toNat + (byte <<< 1).toNat := by
  have bound : byte.toNat < 256 := byte.toNat_lt
  have highest : (byte >>> 7).toNat = byte.toNat / 128 :=
    (UInt8.toNat_shiftRight byte 7).trans (Nat.shiftRight_eq_div_pow byte.toNat 7)
  have low : (byte <<< 1).toNat = byte.toNat * 2 % 256 := by
    rw [UInt8.toNat_shiftLeft, Nat.shiftLeft_eq]
    rfl
  omega

end Byte

namespace Machine

/-- Executing a word stores a byte in a register and changes no other register. -/
def Sets (machine : Machine) (word : Word) (x : Register) (byte : Byte) : Prop :=
  ∀ action, machine.Executes word action → ∀ number,
    (machine.act action).register number = if number = x then byte else machine.register number

/-- Executing a word stores a result in a register and a flag in `VF`, which obey a law as numbers,
and changes no other register. If the register is `VF` itself, the flag remains. -/
def Reports (machine : Machine) (word : Word) (x : Register) (law : Nat → Nat → Prop) : Prop :=
  ∀ action, machine.Executes word action → ∃ result flag : Byte,
    flag.toNat ≤ 1 ∧ law result.toNat flag.toNat ∧ ∀ number,
      (machine.act action).register number =
        if number = flagRegister then flag
        else if number = x then result
        else machine.register number

variable {machine : Machine} {action : Action} {x y : Register} {n : Fin 16}
variable {operation : Arithmetic} {result flag : Byte} {law : Nat → Nat → Prop}

/-- Executing a word `8XYN` stores what the selected operation yields on the two registers. -/
theorem Executes.combined (selected : Arithmetic.ofCode? n = some operation)
    (executes : machine.Executes (Instruction.pairWord 0x8 x y n) action) :
    ∃ pc opcode, (machine.act action).registers = (({ machine with pc, opcode } : Machine).setResult x
      (operation.eval (machine.register x) (machine.register y))).registers := by
  have known : Instruction.ofWord? (Instruction.pairWord 0x8 x y n) =
      some (.arithmetic operation x y) := by
    rw [Instruction.ofWord?_arithmeticWord, selected]
    rfl
  obtain ⟨pc, opcode, move, same⟩ := executes.act_eq known fun _ => ⟨_, rfl⟩
  refine ⟨pc, opcode, ?_⟩
  rw [same]
  rfl

/-- An operation without a flag sets the first register. -/
theorem sets_of_eval (selected : Arithmetic.ofCode? n = some operation)
    (yields : operation.eval (machine.register x) (machine.register y) = (result, none)) :
    machine.Sets (Instruction.pairWord 0x8 x y n) x result := by
  intro action executes number
  obtain ⟨pc, opcode, same⟩ := executes.combined selected
  rw [yields] at same
  calc
    (machine.act action).register number =
        (({ machine with pc, opcode } : Machine).setRegister x result).register number :=
      register_congr same number
    _ = if number = x then result else machine.register number :=
      register_setRegister { machine with pc, opcode } x number result

/-- An operation with a flag reports it, and obeys the law that its result and its flag do. -/
theorem reports_of_eval (selected : Arithmetic.ofCode? n = some operation)
    (yields : operation.eval (machine.register x) (machine.register y) = (result, some flag))
    (obeys : flag.toNat ≤ 1 ∧ law result.toNat flag.toNat) :
    machine.Reports (Instruction.pairWord 0x8 x y n) x law := by
  intro action executes
  refine ⟨result, flag, obeys.1, obeys.2, fun number => ?_⟩
  obtain ⟨pc, opcode, same⟩ := executes.combined selected
  rw [yields] at same
  let stored := ({ machine with pc, opcode } : Machine).setRegister x result
  calc
    (machine.act action).register number = (stored.setRegister flagRegister flag).register number :=
      register_congr same number
    _ = if number = flagRegister then flag else stored.register number :=
      register_setRegister stored flagRegister number flag
    _ = if number = flagRegister then flag
        else if number = x then result
        else machine.register number := by
      rw [register_setRegister { machine with pc, opcode } x number result]
      rfl

/-- A constant is added to a register modulo 256, and no carry is reported. -/
theorem sets_add (machine : Machine) (x : Register) (nn : Byte) :
    machine.Sets (Instruction.byteWord 0x7 x nn) x
      (UInt8.ofNat (((machine.register x).toNat + nn.toNat) % 256)) := by
  have sum : machine.register x + nn =
      UInt8.ofNat (((machine.register x).toNat + nn.toNat) % 256) := by
    apply UInt8.toNat_inj.mp
    rw [UInt8.toNat_add, UInt8.toNat_ofNat', Nat.mod_mod]
  intro action executes number
  obtain ⟨pc, opcode, move, same⟩ :=
    executes.act_eq (Instruction.ofWord?_addWord x nn) fun _ => ⟨_, rfl⟩
  rw [same, ← sum]
  exact register_setRegister { machine with pc, opcode } x number (machine.register x + nn)

/-- Arithmetic on registers is exact.

In every machine, for any two registers that hold two bytes, the operations that report store a
result and a flag which together say what the sum, the difference, the half or the double of the
bytes is. The other operations store the second byte, or the two bytes joined bit by bit, and an
addition of a constant stores the sum modulo 256; none of them touches `VF` unless it is the
register they are to set. -/
theorem register_arithmetic_exact (machine : Machine) (x y : Register) (a b nn : Byte)
    (first : machine.register x = a) (second : machine.register y = b) :
    machine.Sets (Instruction.pairWord 0x8 x y 0x0) x b ∧
    machine.Sets (Instruction.pairWord 0x8 x y 0x1) x (a ||| b) ∧
    machine.Sets (Instruction.pairWord 0x8 x y 0x2) x (a &&& b) ∧
    machine.Sets (Instruction.pairWord 0x8 x y 0x3) x (a ^^^ b) ∧
    machine.Reports (Instruction.pairWord 0x8 x y 0x4) x (fun result flag =>
      256 * flag + result = a.toNat + b.toNat) ∧
    machine.Reports (Instruction.pairWord 0x8 x y 0x5) x (fun result flag =>
      result + b.toNat = a.toNat + 256 * (1 - flag)) ∧
    machine.Reports (Instruction.pairWord 0x8 x y 0x6) x (fun result flag =>
      a.toNat = 2 * result + flag) ∧
    machine.Reports (Instruction.pairWord 0x8 x y 0x7) x (fun result flag =>
      result + a.toNat = b.toNat + 256 * (1 - flag)) ∧
    machine.Reports (Instruction.pairWord 0x8 x y 0xE) x (fun result flag =>
      2 * a.toNat = 256 * flag + result) ∧
    machine.Sets (Instruction.byteWord 0x7 x nn) x (UInt8.ofNat ((a.toNat + nn.toNat) % 256)) := by
  subst first second
  exact ⟨sets_of_eval rfl rfl, sets_of_eval rfl rfl, sets_of_eval rfl rfl, sets_of_eval rfl rfl,
    reports_of_eval rfl rfl ⟨Byte.ofFlag_le _, Byte.add_carry _ _⟩,
    reports_of_eval rfl rfl ⟨Byte.ofFlag_le _, Byte.sub_borrow _ _⟩,
    reports_of_eval rfl rfl (Byte.shiftRight_rest _),
    reports_of_eval rfl rfl ⟨Byte.ofFlag_le _, Byte.sub_borrow _ _⟩,
    reports_of_eval rfl rfl (Byte.shiftLeft_rest _),
    machine.sets_add x nn⟩

/-- A machine with 200 in `VF` and 100 in `V1`, before its word `8F14`. -/
def beforeCarry : Machine :=
  { boot ⟨"carry", #[0x8F, 0x14], by decide⟩ ⟨fun _ => 0, 0⟩ with
    registers := Vector.ofFn fun number => if number = 0xF then 200 else if number = 1 then 100 else 0 }

/-- The carry of 200 and 100 remains in `VF`, where the sum was to be stored, and 100 stays. -/
theorem carry_over_its_sum :
    (beforeCarry.act .cycle).register flagRegister = 1 ∧
      (beforeCarry.act .cycle).register 1 = 100 := by
  have word : 0x8F14 = Instruction.pairWord 0x8 0xF 1 0x4 := by decide
  have read : beforeCarry.memory.word beforeCarry.pc = .ok 0x8F14 := Memory.word_load (by decide)
  have held : beforeCarry.register 1 = 100 := by decide
  obtain ⟨_, _, _, _, adds, _⟩ :=
    register_arithmetic_exact beforeCarry 0xF 1 200 100 0 (by decide) held
  obtain ⟨result, flag, bit, sum, registers⟩ := adds .cycle (.fetched (word ▸ read))
  have carried : flag = 1 := by
    have bound : result.toNat < 256 := result.toNat_lt
    simp only [UInt8.reduceToNat] at sum
    refine UInt8.toNat_inj.mp (?_ : flag.toNat = 1)
    omega
  constructor
  · rw [registers flagRegister, if_pos rfl, carried]
  · rw [registers, if_neg (by decide), if_neg (by decide), held]

end Machine
end ChipEight
