import ChipEight.Proofs.Machine.Failure

/-!
# An instruction in three tables

What an instruction does if it succeeds can be read off three tables: the machine it leaves
before the counter is moved, the move of the counter, and what it tells the outside. The tables
are total. Together with the conditions under which an instruction fails they say all there is to
say about an execution, so that the later theories go through the tables and need not look at
the ways an execution can end.
-/

namespace ChipEight
namespace Machine

/-- The machine an instruction leaves, up to the counter. An instruction that fails leaves it as
it was. -/
def changed (machine : Machine) : Instruction → Machine
  | .clearScreen => { machine with screen := .blank }
  | .ret =>
    match machine.stack.pop? with
    | some (_, stack) => { machine with stack }
    | none => machine
  | .call _ =>
    match machine.stack.push? machine.pc with
    | some stack => { machine with stack }
    | none => machine
  | .load x nn => machine.setRegister x nn
  | .add x nn => machine.setRegister x (machine.register x + nn)
  | .arithmetic operation x y =>
    machine.setResult x (operation.eval (machine.register x) (machine.register y))
  | .loadIndex nnn => { machine with index := nnn }
  | .random x nn =>
    { machine with entropy := machine.entropy.rest }.setRegister x (nn &&& machine.entropy.byte)
  | .draw x y n => machine.drawSprite x y n
  | .getDelay x => machine.setRegister x machine.timers.delay.toByte
  | .awaitKey x =>
    match machine.keypad.firstDown? with
    | some key => machine.setRegister x (UInt8.ofNat key.val)
    | none => machine
  | .setDelay x => { machine with timers.delay := .ofByte (machine.register x) }
  | .setSound x => { machine with timers.sound := .ofByte (machine.register x) }
  | .addIndex x => { machine with index := machine.index + Address.ofByte (machine.register x) }
  | .glyph x => { machine with index := Font.glyphAddress (machine.register x) }
  | .storeDecimal x =>
    { machine with memory := machine.memory.writeAll (machine.stores (.storeDecimal x)) }
  | .storeRegisters x =>
    { machine with memory := machine.memory.writeAll (machine.stores (.storeRegisters x)) }
  | .loadRegisters x => { machine with registers := machine.loadedRegisters x }
  | _ => machine

/-- The move an instruction makes. -/
def moveOf (machine : Machine) : Instruction → Move
  | .ret =>
    match machine.stack.pop? with
    | some (address, _) => .jump address.val
    | none => .next
  | .jump nnn | .call nnn => .jump nnn.val
  | .jumpOffset nnn => .jump ((machine.register 0).toNat + nnn.val)
  | .skipEqual x nn => .skipIf (machine.register x == nn)
  | .skipNotEqual x nn => .skipIf (machine.register x != nn)
  | .skipSame x y => .skipIf (machine.register x == machine.register y)
  | .skipDifferent x y => .skipIf (machine.register x != machine.register y)
  | .skipDown x => .skipIf (machine.keypad.isDown (Key.ofByte (machine.register x)))
  | .skipUp x => .skipIf (!machine.keypad.isDown (Key.ofByte (machine.register x)))
  | .awaitKey _ => if machine.keypad.firstDown?.isSome then .next else .again
  | _ => .next

/-- What an instruction tells. -/
def signalOf (machine : Machine) : Instruction → Signal
  | .clearScreen | .draw _ _ _ => .drawn
  | .awaitKey _ => if machine.keypad.firstDown?.isSome then .quiet else .waiting
  | _ => .quiet

variable {machine after : Machine} {instruction : Instruction} {signal : Signal}

/-- An instruction that succeeds does what its tables say.

Three instructions look at something that may not be there; all others are the same term on both
sides. -/
theorem execute_done (done : machine.execute instruction = .ok (after, signal)) :
    after = (machine.changed instruction).step (machine.moveOf instruction) ∧
      signal = machine.signalOf instruction := by
  cases instruction with
  | ret =>
    cases popped : machine.stack.pop? with
    | none => simp [execute, popped] at done
    | some result =>
      simp only [execute, popped, finish, Except.ok.injEq, Prod.mk.injEq] at done
      simpa only [changed, moveOf, signalOf, popped, eq_comm] using done
  | call nnn =>
    cases pushed : machine.stack.push? machine.pc with
    | none => simp [execute, pushed] at done
    | some stack =>
      simp only [execute, pushed, finish, Except.ok.injEq, Prod.mk.injEq] at done
      simpa only [changed, moveOf, signalOf, pushed, eq_comm] using done
  | awaitKey x =>
    cases found : machine.keypad.firstDown? with
    | none =>
      simp only [execute, found, Except.ok.injEq, Prod.mk.injEq] at done
      simpa [changed, moveOf, signalOf, found, eq_comm] using done
    | some key =>
      simp only [execute, found, finish, Except.ok.injEq, Prod.mk.injEq] at done
      simpa [changed, moveOf, signalOf, found, eq_comm] using done
  | _ =>
    obtain ⟨same, told⟩ := Prod.mk.inj (Except.ok.inj done)
    exact ⟨same.symm, told.symm⟩

/-- No instruction moves the counter by itself. -/
theorem changed_pc (machine : Machine) (instruction : Instruction) :
    (machine.changed instruction).pc = machine.pc := by
  cases instruction with
  | ret =>
    unfold changed
    cases machine.stack.pop? <;> rfl
  | call nnn =>
    unfold changed
    cases machine.stack.push? machine.pc <;> rfl
  | awaitKey x =>
    unfold changed
    cases machine.keypad.firstDown? <;> rfl
  | arithmetic operation x y => cases operation <;> rfl
  | _ => rfl

/-- A word that stands for no instruction is passed over. -/
theorem cycle_of_unknown {word : Word} (read : machine.memory.word machine.pc = .ok word)
    (unknown : Instruction.ofWord? word = none) :
    machine.cycle = (machine.fetched word, .ok .quiet) := by
  simp only [cycle, read, unknown]

/-- An instruction that succeeds leaves what the cycle leaves. -/
theorem cycle_of_done {word : Word} {instruction : Instruction} {signal : Signal}
    (read : machine.memory.word machine.pc = .ok word)
    (known : Instruction.ofWord? word = some instruction)
    (done : (machine.fetched word).execute instruction = .ok (after, signal)) :
    machine.cycle = (after, .ok signal) := by
  simp only [cycle, read, known, done]

/-- An action executes a word. A cycle does so if the word is at the counter; and the instruction
that the word stands for does so if it is given from outside. -/
inductive Executes (machine : Machine) (word : Word) : Action → Prop
  | fetched (read : machine.memory.word machine.pc = .ok word) : Executes machine word .cycle
  | given (instruction : Instruction) (known : Instruction.ofWord? word = some instruction) :
      Executes machine word (.execute instruction)

/-- An action that executes a word does what the tables of its instruction say, if this one cannot
fail. A cycle has moved the counter and kept the word before. -/
theorem Executes.act_eq {word : Word} {action : Action} (executes : machine.Executes word action)
    (known : Instruction.ofWord? word = some instruction)
    (succeeds : ∀ ready : Machine, ∃ result, ready.execute instruction = .ok result) :
    ∃ pc opcode move, machine.act action =
      (({ machine with pc, opcode } : Machine).changed instruction).step move := by
  cases executes with
  | fetched read =>
    obtain ⟨⟨after, signal⟩, done⟩ := succeeds (machine.fetched word)
    refine ⟨machine.pc + 2, word, (machine.fetched word).moveOf instruction, ?_⟩
    rw [act, cycle_of_done read known done]
    exact (execute_done done).1
  | given other knownToo =>
    obtain rfl : instruction = other := Option.some.inj (known.symm.trans knownToo)
    obtain ⟨⟨after, signal⟩, done⟩ := succeeds machine
    refine ⟨machine.pc, machine.opcode, machine.moveOf instruction, ?_⟩
    rw [act, done]
    exact (execute_done done).1

end Machine
end ChipEight
