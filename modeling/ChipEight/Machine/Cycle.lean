import ChipEight.Machine.Execute

/-!
# Cycles

A cycle fetches the word under the program counter, moves the counter past it and executes
it. A word without an instruction is passed over. A cycle always leaves a machine, also
where it fails:

* where no word can be fetched, nothing changes;
* where the call stack is misused, the word has been fetched and passed.
-/

namespace ChipEight.Machine

/-- The machine with a word fetched and passed. -/
def fetched (machine : Machine) (word : Word) : Machine :=
  { machine with opcode := word, pc := machine.pc + 2 }

/-- The machine a cycle leaves, and its answer. -/
def cycle (machine : Machine) : Machine × Except Fault Signal :=
  match machine.memory.word machine.pc with
  | .error cause => (machine, .error (.word cause))
  | .ok word =>
    let ready := machine.fetched word
    match Instruction.ofWord? word with
    | none => (ready, .ok .quiet)
    | some instruction =>
      match ready.execute instruction with
      | .error fault => (ready, .error fault)
      | .ok (after, signal) => (after, .ok signal)

end ChipEight.Machine
