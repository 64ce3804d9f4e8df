import ChipEight.Machine.Journal

/-!
# What a cycle asks of the outside

A cycle hands its records to a journal and takes bytes from a random source. Neither belongs to the
machine, and either can fail to answer. Then the cycle ends where it is, and the machine stays as
it was when the request was made. So the requests of a cycle are listed in their order, each with
the machine at that time.
-/

namespace ChipEight

/-- A request, and the machine that makes it. A request without a record is for a random byte. -/
structure Request where
  machine : Machine
  notice : Option Notice

namespace Machine

/-- The requests of several writes. A write that the font does not take is recorded before the
next one is made. -/
def storeRequests (machine : Machine) : List (Address × Byte) → List Request
  | [] => []
  | (address, byte) :: later =>
    (if Font.covers address then [⟨machine, some (.ignoredWrite byte address)⟩] else []) ++
      { machine with memory := machine.memory.write address byte }.storeRequests later

/-- The requests of an instruction. Calls and returns are recorded when the stack has moved, and
before the counter does. -/
def executeRequests (machine : Machine) (instruction : Instruction) : List Request :=
  match instruction with
  | .system nnn => [⟨machine, some (.ignoredRoutine nnn)⟩]
  | .ret =>
    match machine.stack.pop? with
    | some (address, stack) => [⟨{ machine with stack }, some (.returning address)⟩]
    | none => []
  | .call nnn =>
    match machine.stack.push? machine.pc with
    | some stack => [⟨{ machine with stack }, some (.calling nnn machine.pc)⟩]
    | none => []
  | .random _ _ => [⟨machine, none⟩]
  | _ => machine.storeRequests (machine.stores instruction)

/-- The requests of a cycle. The word is recorded when it is fetched and passed. -/
def cycleRequests (machine : Machine) : List Request :=
  match machine.memory.word machine.pc with
  | .error _ => []
  | .ok word =>
    let ready := machine.fetched word
    match Instruction.ofWord? word with
    | none => [⟨ready, some (.passedOver machine.pc word)⟩]
    | some instruction =>
      ⟨ready, some (.executing machine.pc word instruction)⟩ :: ready.executeRequests instruction

end Machine
end ChipEight
