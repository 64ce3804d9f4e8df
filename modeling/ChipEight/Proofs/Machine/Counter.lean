import ChipEight.Proofs.Machine.Frame

/-!
# Where the program goes on

A cycle moves the counter twice: past the word it fetched, and then as the instruction says. What
comes out can be read off the digits of the word. Four kinds of words name the place to go on at,
a word that waits is run again, and the words with a condition pass over the word after them. All
other words go on to the next one, and so do the words that stand for no instruction.

Places are counted modulo the size of the memory: from the last word the counter goes round.
-/

namespace ChipEight

/-- Whether a word names the place to go on at: `00EE`, or of the form `1NNN`, `2NNN` or `BNNN`. -/
def Word.isJumping (word : Word) : Bool :=
  word == 0x00EE || word.family == 0x1 || word.family == 0x2 || word.family == 0xB

/-- From past a word, a move under a condition ends at the word after it or at the one behind that. -/
theorem Move.val_apply_skipIf (condition : Bool) (pc : Address) :
    ((skipIf condition).apply (pc + 2)).val =
      if condition = true then (pc.val + 4) % 4096 else (pc.val + 2) % 4096 := by
  cases condition <;> simp [skipIf, apply, Fin.val_add]

/-- From past a word, a move that runs it again ends at the word. -/
theorem Move.apply_again (pc : Address) : again.apply (pc + 2) = pc := by
  have two : (2 : Address).val = 2 := rfl
  apply Fin.ext
  simp only [apply, Fin.sub_def, Fin.val_add, two]
  omega

namespace Machine

/-- Whether a word has a condition that holds: `3XNN`, `4XNN`, `5XY0` and `9XY0` compare registers,
`EX9E` and `EXA1` look at the key that the lower digit of a register names. -/
def Skips (machine : Machine) (word : Word) : Prop :=
  word.family = 0x3 ∧ machine.register word.x = word.byte ∨
  word.family = 0x4 ∧ machine.register word.x ≠ word.byte ∨
  word.family = 0x5 ∧ word.n = 0 ∧ machine.register word.x = machine.register word.y ∨
  word.family = 0x9 ∧ word.n = 0 ∧ machine.register word.x ≠ machine.register word.y ∨
  word.family = 0xE ∧ word.byte = 0x9E ∧
    machine.keypad.isDown (Key.ofByte (machine.register word.x)) = true ∨
  word.family = 0xE ∧ word.byte = 0xA1 ∧
    machine.keypad.isDown (Key.ofByte (machine.register word.x)) = false

/-- A condition holds or not. -/
instance (machine : Machine) (word : Word) : Decidable (machine.Skips word) :=
  inferInstanceAs (Decidable (_ ∨ _))

/-- Whether a word waits for a key and none is down. -/
def Waits (machine : Machine) (word : Word) : Prop :=
  word.isAwaiting = true ∧ ∀ key, machine.keypad.isDown key = false

/-- The move of the instruction a word stands for, if any. -/
def moveTo (machine : Machine) : Option Instruction → Move
  | some instruction => machine.moveOf instruction
  | none => .next

variable {machine : Machine} {word : Word}

/-- A cycle that succeeds moves the counter past its word, and then as the word says. -/
theorem cycle_pc (executed : machine.executed? = some word) :
    machine.cycle.1.pc = (machine.moveTo (Instruction.ofWord? word)).apply (machine.pc + 2) := by
  obtain ⟨read, signal, answered⟩ := executed?_eq_some.mp executed
  generalize ran : machine.cycle = result at answered ⊢
  obtain ⟨after, answer⟩ := result
  obtain rfl : answer = .ok signal := answered
  cases cycle_end ran with
  | passedOver other readToo unknown =>
    obtain rfl : word = other := Except.ok.inj (read.symm.trans readToo)
    rw [unknown]
    rfl
  | executed other instruction after signal readToo known done =>
    obtain rfl : word = other := Except.ok.inj (read.symm.trans readToo)
    have unmoved := (machine.fetched word).changed_pc instruction
    have sameMove : (machine.fetched word).moveOf instruction = machine.moveOf instruction := by
      cases instruction <;> rfl
    rw [known, (execute_done done).1, step, unmoved, sameMove]
    rfl

/-- A word that names no place and does not wait moves the counter as its condition says. -/
theorem moveTo_of_straight (straight : word.isJumping = false) (goesOn : ¬ machine.Waits word) :
    machine.moveTo (Instruction.ofWord? word) = .skipIf (decide (machine.Skips word)) := by
  unfold Instruction.ofWord?
  split
  case h_1 same =>
    have noReturn : word ≠ 0x00EE := by
      rintro rfl
      nomatch straight
    have still : ¬ machine.Skips word := by simp [Skips, same]
    rw [decide_eq_false still]
    by_cases clears : word = 0x00E0 <;> simp [clears, noReturn, moveTo, moveOf, Move.skipIf]
  case h_2 same | h_3 same | h_12 same => simp [Word.isJumping, same] at straight
  case h_6 same | h_10 same =>
    by_cases last : word.n = 0 <;> simp [moveTo, moveOf, Skips, same, last, Move.skipIf]
  case h_9 same =>
    cases Arithmetic.ofCode? word.n <;> simp [moveTo, moveOf, Skips, same, Move.skipIf]
  case h_15 same =>
    unfold Instruction.ofKeyWord?
    split
    case h_1 low | h_2 low => simp [moveTo, moveOf, Skips, same, low, Move.skipIf]
    case h_3 noDown noUp =>
      have still : ¬ machine.Skips word := by
        simp [Skips, same, show word.byte ≠ 0x9E from noDown, show word.byte ≠ 0xA1 from noUp]
      simp [moveTo, Move.skipIf, decide_eq_false still]
  case h_16 =>
    have same : word.family = 0xF := by
      clear straight goesOn
      generalize word.family = family at *
      revert family
      decide
    have still : ¬ machine.Skips word := by simp [Skips, same]
    unfold Instruction.ofDeviceWord?
    split
    case h_2 low =>
      have found : machine.keypad.firstDown?.isSome = true := by
        rw [Option.isSome_iff_ne_none, Ne, Keypad.firstDown?_eq_none]
        exact fun allUp => goesOn ⟨by simp [Word.isAwaiting, same, low], allUp⟩
      simp [moveTo, moveOf, found, Move.skipIf, decide_eq_false still]
    all_goals simp [moveTo, moveOf, Move.skipIf, decide_eq_false still]
  all_goals
    rename_i same
    simp [moveTo, moveOf, Skips, same, Move.skipIf]

/-- Where the program goes on after a word.

A word that names a place goes on there: a jump and a call at their address, an offset jump at its
address moved on by `V0`, a return at the latest return address, which it takes off the stack. A
call leaves the address past itself on the stack. A word that waits stays where it is. Every other
word goes on past itself, and past one word more exactly if it has a condition that holds. -/
theorem counter_after_word (machine : Machine) (word : Word)
    (executed : machine.executed? = some word) :
    let after := machine.cycle.1
    (word.family = 0x1 → after.pc = word.address) ∧
    (word.family = 0x2 → after.pc = word.address ∧
      after.stack.entries = Fin.ofNat 4096 (machine.pc.val + 2) :: machine.stack.entries) ∧
    (word.family = 0xB →
      after.pc.val = ((machine.register 0).toNat + word.address.val) % 4096) ∧
    (word = 0x00EE → machine.stack.entries = after.pc :: after.stack.entries) ∧
    (machine.Waits word → after.pc = machine.pc) ∧
    (word.isJumping = false → ¬ machine.Waits word →
      after.pc.val =
        if machine.Skips word then (machine.pc.val + 4) % 4096 else (machine.pc.val + 2) % 4096) := by
  intro after
  have moved : after.pc = (machine.moveTo (Instruction.ofWord? word)).apply (machine.pc + 2) :=
    cycle_pc executed
  have change : StackChange machine (some word) after := executed ▸ machine.cycle_stack
  refine ⟨?_, ?_, ?_, ?_, ?_, ?_⟩
  · intro same
    have known : Instruction.ofWord? word = some (.jump word.address) := by
      simp [Instruction.ofWord?, same]
    rw [moved, known]
    exact Fin.ofNat_val_eq_self word.address
  · intro same
    have known : Instruction.ofWord? word = some (.call word.address) := by
      simp [Instruction.ofWord?, same]
    refine ⟨?_, (change.of_call (beq_iff_eq.mpr same)).2⟩
    rw [moved, known]
    exact Fin.ofNat_val_eq_self word.address
  · intro same
    have known : Instruction.ofWord? word = some (.jumpOffset word.address) := by
      simp [Instruction.ofWord?, same]
    rw [moved, known]
    rfl
  · exact change.of_return
  · rintro ⟨awaits, allUp⟩
    have again : machine.moveOf (.awaitKey word.x) = .again := by
      simp [moveOf, Keypad.firstDown?_eq_none.mpr allUp]
    rw [moved, Instruction.ofWord?_of_isAwaiting awaits, moveTo, again, Move.apply_again]
  · intro straight goesOn
    rw [moved, moveTo_of_straight straight goesOn, Move.val_apply_skipIf]
    simp only [decide_eq_true_eq]

/-- A machine at the last word of its memory, which asks whether the key in `V3` is down. The key
is named by the lower digit of the register. -/
def atLastQuestion : Machine where
  name := "question"
  memory := Memory.writeAll ⟨Vector.replicate 4096 0⟩ [(0xFFE, 0xE3), (0xFFF, 0x9E)]
  registers := (Vector.replicate 16 0).set 3 0xA5
  index := 0
  pc := 0xFFE
  opcode := 0
  stack := .empty
  timers := .finished
  screen := .blank
  keypad := Keypad.released.set 5 true
  entropy := ⟨fun _ => 0, 0⟩

/-- The key is down, and the counter goes round the end of the memory to the second word. -/
theorem question_skips_first_word :
    atLastQuestion.executed? = some 0xE39E ∧ atLastQuestion.cycle.1.pc.val = 2 := by
  have read : atLastQuestion.memory.word atLastQuestion.pc = .ok 0xE39E :=
    Memory.word_ok.mpr (by decide +kernel)
  have executed : atLastQuestion.executed? = some 0xE39E := executed_of_read read (by decide) (by decide)
  have skips : atLastQuestion.Skips 0xE39E := by decide +kernel
  have goesOn : ¬ atLastQuestion.Waits 0xE39E := fun waits => nomatch waits.1
  obtain ⟨_, _, _, _, _, straight⟩ := counter_after_word atLastQuestion 0xE39E executed
  refine ⟨executed, (straight (by decide) goesOn).trans ?_⟩
  rw [if_pos skips]
  rfl

end Machine
end ChipEight
