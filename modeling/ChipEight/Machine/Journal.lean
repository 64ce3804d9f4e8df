import ChipEight.Machine.Cycle
import ChipEight.Journal

/-!
# What a machine reports

The notices of an instruction or a cycle are a function of the machine before it. They have
no influence on what the instruction does.
-/

namespace ChipEight.Machine

/-- The notice of a machine that was just built. -/
def bootNotices (cartridge : Cartridge) : List Notice :=
  [.created cartridge.name cartridge.data.size]

/-- What an instruction reports: a routine that is not there, a call or return that
succeeds, and writes the font does not take. -/
def executeNotices (machine : Machine) (instruction : Instruction) : List Notice :=
  match instruction with
  | .system nnn => [.ignoredRoutine nnn]
  | .ret =>
    match machine.stack.pop? with
    | some (address, _) => [.returning address]
    | none => []
  | .call nnn =>
    match machine.stack.push? machine.pc with
    | some _ => [.calling nnn machine.pc]
    | none => []
  | _ =>
    (machine.stores instruction).filterMap fun (address, byte) =>
      if Font.covers address then some (.ignoredWrite byte address) else none

/-- What a cycle reports: the word it met, then what the instruction reports. -/
def cycleNotices (machine : Machine) : List Notice :=
  match machine.memory.word machine.pc with
  | .error _ => []
  | .ok word =>
    match Instruction.ofWord? word with
    | none => [.passedOver machine.pc word]
    | some instruction =>
      .executing machine.pc word instruction :: (machine.fetched word).executeNotices instruction

end ChipEight.Machine
