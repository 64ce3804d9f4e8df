import ChipEight.Word
import ChipEight.Text.Hex

/-!
# Faults

What stops a machine: there is no instruction where the program counter points, or the call
stack is misused. Each cause has one message; a message of a cause inside another is quoted.
-/

namespace ChipEight

/-- Words and places that hold no instruction. -/
def WordError.message : WordError → String
  | unsupported word => "An unsupported opcode was used " ++ Hex.text 4 word.toNat ++ "."
  | outOfRange pointer size =>
    "Pointer location invalid there can not be an opcode at " ++ pointer.repr
      ++ ", if data len is " ++ size.repr

/-- The two ways to misuse the call stack. -/
inductive StackError
  /-- A call with sixteen calls pending. -/
  | full
  /-- A return with no call pending. -/
  | empty
  deriving DecidableEq, Repr

/-- The wording of a misused stack. -/
def StackError.message : StackError → String
  | full => "Stack is full!"
  | empty => "Stack is empty!"

/-- What ends the execution of a program. -/
inductive Fault
  | word (cause : WordError)
  | stack (cause : StackError)
  deriving DecidableEq, Repr

/-- A fault quotes its cause. -/
def Fault.message : Fault → String
  | word cause => "Invalid opcode state '" ++ cause.message ++ "'."
  | stack cause => "Invalid stack state '" ++ cause.message ++ "'."

end ChipEight
