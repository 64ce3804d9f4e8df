import ChipEight.Word

/-!
# Cartridges

A cartridge is a named program that fits into the memory behind its first 512 bytes. One
byte of that room stays free, so the largest program has 3583 bytes.
-/

namespace ChipEight

/-- Where programs start. -/
def programStart : Nat := 0x200

/-- The room behind the program start. Programs have to be shorter. -/
def programRoom : Nat := 4096 - programStart

/-- A program that fits. -/
structure Cartridge where
  name : String
  data : Array Byte
  size_lt : data.size < programRoom

/-- The one reason to refuse a program: its size and the room, which it does not stay below. -/
structure TooLarge where
  size : Nat
  room : Nat
  deriving DecidableEq, Repr

/-- The message shows the size and the room. -/
def TooLarge.message (refusal : TooLarge) : String :=
  "The rom is " ++ refusal.size.repr ++ " bytes long, but it has to be shorter than "
    ++ refusal.room.repr ++ " bytes."

/-- Any bytes that are short enough make a cartridge. -/
def Cartridge.ofBytes (name : String) (data : Array Byte) : Except TooLarge Cartridge :=
  if size_lt : data.size < programRoom then .ok ⟨name, data, size_lt⟩
  else .error ⟨data.size, programRoom⟩

end ChipEight
