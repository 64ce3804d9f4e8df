import ChipEight.Word

/-!
# Moves of the program counter

While an instruction runs the program counter already points past it. The instruction then
moves the counter; every move ends inside the memory.
-/

namespace ChipEight

/-- Where the program goes after an instruction. -/
inductive Move
  /-- On to the following instruction. -/
  | next
  /-- Past the following instruction. -/
  | skip
  /-- To a place, which may lie beyond the memory and then wraps. -/
  | jump (target : Nat)
  /-- Back onto the running instruction, which so runs again. -/
  | again
  deriving DecidableEq, Repr

namespace Move

/-- A condition that holds skips one instruction. -/
def skipIf (condition : Bool) : Move := if condition then skip else next

/-- The counter after the move, given the counter past the running instruction. -/
def apply (move : Move) (pc : Address) : Address :=
  match move with
  | next => pc
  | skip => pc + 2
  | jump target => Fin.ofNat 4096 target
  | again => pc - 2

/-- The name of a move; a jump shows the place it was given. -/
def text : Move → String
  | next => "Next"
  | skip => "Skip"
  | jump target => "Jump(" ++ target.repr ++ ")"
  | again => "Repeat"

end Move
end ChipEight
