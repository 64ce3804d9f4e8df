import ChipEight.Proofs.Instruction.Decoding
import ChipEight.Proofs.Machine.Effects

/-!
# When a cycle fails

A cycle has three reasons to fail and no others: the counter is at the last byte of the memory,
so that no whole word is left to fetch; a return finds no call pending; a call finds sixteen.
A word without an instruction is not among them, since a cycle passes over it.

A machine that cannot fetch is left as it is, and so fails in the same way for as long as
nobody else moves its counter. A misused call stack is noticed after the fetch: the word and
the counter past it are kept, and nothing else has changed.
-/

namespace ChipEight

/-- A fetch fails only from the last byte of the memory. -/
theorem Memory.word_error {memory : Memory} {address : Address} {cause : WordError} :
    memory.word address = .error cause ↔ address = 0xFFF ∧ cause = .outOfRange 4095 4096 := by
  have size : memory.cells.toArray.size = 4096 := memory.cells.size_toArray
  unfold word Word.read
  by_cases last : address = 0xFFF
  · subst last
    have past : memory.cells.toArray[(0xFFF : Address).val + 1]? = none :=
      Array.getElem?_eq_none (by rw [size]; decide)
    have pointer : (0xFFF : Address).val = 4095 := rfl
    rw [past, size, pointer]
    simp [eq_comm]
  · have below : address.val + 1 < 4096 := by
      have bound : address.val < 4096 := address.isLt
      have apart : address.val ≠ 4095 := fun same => last (Fin.ext same)
      omega
    simp [below, last]

/-- A fetch from any other place finds the byte there and the one after it. -/
theorem Memory.word_ok {memory : Memory} {address : Address} {word : Word} :
    memory.word address = .ok word ↔
      address ≠ 0xFFF ∧ Word.ofBytes (memory.read address) (memory.read (address + 1)) = word := by
  by_cases last : address = 0xFFF
  · subst last
    have unread : memory.word 0xFFF = .error (.outOfRange 4095 4096) :=
      Memory.word_error.mpr ⟨rfl, rfl⟩
    simp [unread]
  · have below : address.val + 1 < 4096 := by
      have bound : address.val < 4096 := address.isLt
      have apart : address.val ≠ 4095 := fun same => last (Fin.ext same)
      omega
    have following : (address + 1).val = address.val + 1 := by
      rw [Fin.val_add]
      exact Nat.mod_eq_of_lt below
    simp [Memory.word, Word.read, Memory.read, below, last, following]

/-- A word of a memory that was just loaded. -/
theorem Memory.word_load {program : Array Byte} {address : Address} (inside : address ≠ 0xFFF) :
    (Memory.load program).word address =
      .ok (Word.ofBytes (Memory.initialByte program address.val)
        (Memory.initialByte program (address + 1).val)) := by
  rw [← Memory.read_load, ← Memory.read_load]
  exact Memory.word_ok.mpr ⟨inside, rfl⟩

namespace Machine

/-- Only a return and a call can fail, each for one state of the call stack. -/
theorem execute_error {machine : Machine} {instruction : Instruction} {fault : Fault} :
    machine.execute instruction = .error fault ↔
      instruction = .ret ∧ machine.stack.depth = 0 ∧ fault = .stack .empty ∨
      (∃ nnn, instruction = .call nnn) ∧ machine.stack.depth = 16 ∧ fault = .stack .full := by
  cases instruction with
  | ret =>
    cases popped : machine.stack.pop? with
    | none =>
      have vacant : machine.stack.depth = 0 :=
        congrArg List.length (CallStack.pop?_none popped)
      simp [execute, popped, vacant, eq_comm]
    | some result =>
      have pending : machine.stack.depth ≠ 0 := by
        simp [CallStack.depth, CallStack.pop?_some popped]
      simp [execute, popped, finish, pending]
  | call nnn =>
    cases pushed : machine.stack.push? machine.pc with
    | none =>
      have full : machine.stack.depth = 16 := CallStack.push?_none pushed
      simp [execute, pushed, full, eq_comm]
    | some stack =>
      have room : machine.stack.depth ≠ 16 := Nat.ne_of_lt (CallStack.push?_some pushed).1
      simp [execute, pushed, finish, room]
  | awaitKey x =>
    cases found : machine.keypad.firstDown? <;> simp [execute, found, finish]
  | _ => simp [execute, finish]

variable {machine : Machine}

/-- Without a word nothing happens. -/
theorem cycle_of_error {cause : WordError} (unread : machine.memory.word machine.pc = .error cause) :
    machine.cycle = (machine, .error (.word cause)) := by
  simp only [cycle, unread]

/-- An instruction that fails has been fetched and passed. -/
theorem cycle_of_refused {word : Word} {instruction : Instruction} {fault : Fault}
    (read : machine.memory.word machine.pc = .ok word)
    (known : Instruction.ofWord? word = some instruction)
    (refused : (machine.fetched word).execute instruction = .error fault) :
    machine.cycle = (machine.fetched word, .error fault) := by
  simp only [cycle, read, known, refused]

/-- A cycle fails at the last byte of the memory, at a return with no call pending, and at a
call with sixteen calls pending. -/
theorem cycle_error {fault : Fault} :
    machine.cycle.2 = .error fault ↔
      machine.pc = 0xFFF ∧ fault = .word (.outOfRange 4095 4096) ∨
      machine.memory.word machine.pc = .ok 0x00EE ∧ machine.stack.depth = 0 ∧
        fault = .stack .empty ∨
      (∃ word, machine.memory.word machine.pc = .ok word ∧ word.isCall = true) ∧
        machine.stack.depth = 16 ∧ fault = .stack .full := by
  constructor
  · intro failed
    generalize ran : machine.cycle = result at failed
    obtain ⟨after, answer⟩ := result
    obtain rfl : answer = .error fault := failed
    cases cycle_end ran with
    | unreadable cause unread =>
      obtain ⟨last, rfl⟩ := Memory.word_error.mp unread
      exact .inl ⟨last, rfl⟩
    | failed word instruction fault read known refused =>
      rcases execute_error.mp refused with ⟨rfl, vacant, rfl⟩ | ⟨⟨nnn, rfl⟩, full, rfl⟩
      · obtain rfl := Instruction.ofWord?_eq_ret.mp known
        exact .inr (.inl ⟨read, vacant, rfl⟩)
      · exact .inr (.inr ⟨⟨word, read, Instruction.ofWord?_eq_call.mp ⟨nnn, known⟩⟩, full, rfl⟩)
  · rintro (⟨last, rfl⟩ | ⟨read, vacant, rfl⟩ | ⟨⟨word, read, calls⟩, full, rfl⟩)
    · rw [cycle_of_error (Memory.word_error.mpr ⟨last, rfl⟩)]
    · have known : Instruction.ofWord? 0x00EE = some .ret := Instruction.ofWord?_eq_ret.mpr rfl
      have refused : (machine.fetched 0x00EE).execute .ret = .error (.stack .empty) :=
        execute_error.mpr (.inl ⟨rfl, vacant, rfl⟩)
      rw [cycle_of_refused read known refused]
    · obtain ⟨nnn, known⟩ := Instruction.ofWord?_eq_call.mpr calls
      have refused : (machine.fetched word).execute (.call nnn) = .error (.stack .full) :=
        execute_error.mpr (.inr ⟨⟨nnn, rfl⟩, full, rfl⟩)
      rw [cycle_of_refused read known refused]

/-- Whether everything that is done from outside leaves the counter where it is. Cycles may
move it. -/
def CounterLeft (machine : Machine) : List Action → Prop
  | [] => True
  | action :: later =>
    (action ≠ .cycle → (machine.act action).pc = machine.pc) ∧ (machine.act action).CounterLeft later

/-- A machine that cannot fetch stays so until its counter is moved from outside. -/
theorem run_at_end {actions : List Action} (last : machine.pc = 0xFFF)
    (left : machine.CounterLeft actions) : (machine.run actions).pc = 0xFFF := by
  induction actions generalizing machine with
  | nil => exact last
  | cons action later inductionHypothesis =>
    refine inductionHypothesis ?_ left.2
    by_cases own : action = .cycle
    · subst own
      have stuck := cycle_of_error (Memory.word_error.mpr ⟨last, rfl⟩)
      simp only [act, stuck, last]
    · exact (left.1 own).trans last

/-- A fault of the call stack leaves the fetched word, the counter past it, and all else as it
was. -/
theorem cycle_of_stack_error {word : Word} {cause : StackError}
    (read : machine.memory.word machine.pc = .ok word)
    (failed : machine.cycle.2 = .error (.stack cause)) :
    machine.cycle.1 =
      { machine with pc := Fin.ofNat 4096 (machine.pc.val + 2), opcode := word } := by
  generalize ran : machine.cycle = result at failed ⊢
  obtain ⟨after, answer⟩ := result
  obtain rfl : answer = .error (.stack cause) := failed
  cases cycle_end ran with
  | failed other instruction fault readToo known refused =>
    obtain rfl : word = other := Except.ok.inj (read.symm.trans readToo)
    rfl

/-- When a cycle fails, and what it leaves then.

The three reasons exclude each other, and none of them is a word without an instruction. A
machine that cannot fetch is left as it is, and every further cycle fails like the first one
until somebody else moves the counter. A misused call stack costs the counter and the word
register their values, and nothing else. -/
theorem failures_of_cycle (machine : Machine) :
    (∀ fault, machine.cycle.2 = .error fault ↔
      machine.pc = 0xFFF ∧ fault = .word (.outOfRange 4095 4096) ∨
      machine.memory.word machine.pc = .ok 0x00EE ∧ machine.stack.depth = 0 ∧
        fault = .stack .empty ∨
      (∃ word, machine.memory.word machine.pc = .ok word ∧ word.isCall = true) ∧
        machine.stack.depth = 16 ∧ fault = .stack .full) ∧
    (∀ word, machine.cycle.2 ≠ .error (.word (.unsupported word))) ∧
    (machine.pc = 0xFFF → machine.cycle.1 = machine ∧
      ∀ actions, machine.CounterLeft actions →
        (machine.run actions).cycle =
          (machine.run actions, .error (.word (.outOfRange 4095 4096)))) ∧
    (∀ word cause, machine.memory.word machine.pc = .ok word →
      machine.cycle.2 = .error (.stack cause) →
      machine.cycle.1 =
        { machine with pc := Fin.ofNat 4096 (machine.pc.val + 2), opcode := word }) := by
  refine ⟨fun _ => cycle_error, ?_, ?_, fun _ _ => cycle_of_stack_error⟩
  · intro word failed
    simpa using cycle_error.mp failed
  · intro last
    have stuck := cycle_of_error (Memory.word_error.mpr ⟨last, rfl⟩)
    refine ⟨by rw [stuck], ?_⟩
    intro actions left
    exact cycle_of_error (Memory.word_error.mpr ⟨run_at_end last left, rfl⟩)

/-- A machine with a full stack, at a call in the last two bytes of the memory. -/
def fullAtLastWord : Machine where
  name := "edge"
  memory := Memory.writeAll ⟨Vector.replicate 4096 0⟩ [(0xFFE, 0x22), (0xFFF, 0x06)]
  registers := Vector.replicate 16 0
  index := 0
  pc := 0xFFE
  opcode := 0
  stack := ⟨List.replicate 16 0x300, by decide⟩
  timers := .finished
  screen := .blank
  keypad := .released
  entropy := ⟨fun _ => 0, 0⟩

/-- The call is refused, and the counter goes round to the first byte. -/
theorem refused_call_goes_round :
    fullAtLastWord.cycle.2 = .error (.stack .full) ∧
      fullAtLastWord.cycle.1 = { fullAtLastWord with pc := 0, opcode := 0x2206 } := by
  obtain ⟨fails, _, _, leaves⟩ := failures_of_cycle fullAtLastWord
  have read : fullAtLastWord.memory.word fullAtLastWord.pc = .ok 0x2206 :=
    Memory.word_ok.mpr (by decide +kernel)
  have failed : fullAtLastWord.cycle.2 = .error (.stack .full) :=
    (fails _).mpr (.inr (.inr ⟨⟨0x2206, read, by decide⟩, rfl, rfl⟩))
  exact ⟨failed, leaves 0x2206 .full read failed⟩

end Machine
end ChipEight
