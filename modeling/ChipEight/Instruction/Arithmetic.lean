import ChipEight.Word

/-!
# Register arithmetic

The family `8XYN` combines two registers. An operation is a function of the two bytes alone:
it yields the byte for `VX` and, for the operations that report one, a flag for `VF`. The
machine stores the flag after the result, so the flag survives where both name one register.
-/

namespace ChipEight

/-- The operations on two registers; `N` selects one. -/
inductive Arithmetic
  | assign
  | or
  | and
  | xor
  | add
  | sub
  | shiftRight
  | subReverse
  | shiftLeft
  deriving DecidableEq, Repr

namespace Arithmetic

/-- The digit that selects an operation. -/
def code : Arithmetic → Fin 16
  | assign => 0x0
  | or => 0x1
  | and => 0x2
  | xor => 0x3
  | add => 0x4
  | sub => 0x5
  | shiftRight => 0x6
  | subReverse => 0x7
  | shiftLeft => 0xE

/-- Seven digits select no operation. -/
def ofCode? : Fin 16 → Option Arithmetic
  | 0x0 => some assign
  | 0x1 => some or
  | 0x2 => some and
  | 0x3 => some xor
  | 0x4 => some add
  | 0x5 => some sub
  | 0x6 => some shiftRight
  | 0x7 => some subReverse
  | 0xE => some shiftLeft
  | _ => none

theorem ofCode?_code (operation : Arithmetic) : ofCode? operation.code = some operation := by
  cases operation <;> rfl

/-- The new `VX` and, where the operation reports one, the flag. An addition reports its
carry, a subtraction that it did *not* borrow, a shift the bit it dropped. -/
def eval (operation : Arithmetic) (vx vy : Byte) : Byte × Option Byte :=
  match operation with
  | assign => (vy, none)
  | or => (vx ||| vy, none)
  | and => (vx &&& vy, none)
  | xor => (vx ^^^ vy, none)
  | add => (vx + vy, some (Byte.ofFlag (256 ≤ vx.toNat + vy.toNat)))
  | sub => (vx - vy, some (Byte.ofFlag (vy.toNat ≤ vx.toNat)))
  | shiftRight => (vx >>> 1, some (vx &&& 1))
  | subReverse => (vy - vx, some (Byte.ofFlag (vx.toNat ≤ vy.toNat)))
  | shiftLeft => (vx <<< 1, some (vx >>> 7))

end Arithmetic
end ChipEight
