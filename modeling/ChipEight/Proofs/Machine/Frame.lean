import ChipEight.Proofs.Machine.Calls
import ChipEight.Proofs.Machine.Execution

/-!
# What a cycle leaves alone

A program works with ten kinds of parts of a machine: single bytes of the memory, single
registers, the index register, the call stack, the two timers, the screen, the keys, the random
source and the name. For each instruction a table says which of them it may change. No cycle
changes a part that is out of reach of the instruction it executes, and a cycle that executes
none changes no part at all.

The counter and the opcode register are no parts here, since every cycle that fetches a word
moves the one and sets the other.

What a cycle answers is settled by the word it fetches and, for a word that waits, by the keys.
-/

namespace ChipEight

/-- A part of a machine. Memory and registers are taken byte by byte. -/
inductive Part
  | cell (place : Address)
  | register (number : Register)
  | index
  | stack
  | delay
  | sound
  | screen
  | keypad
  | entropy
  | name
  deriving DecidableEq

/-- Whether a part is the same in two machines. -/
def Part.Same (machine after : Machine) : Part → Prop
  | cell place => after.memory.read place = machine.memory.read place
  | register number => after.register number = machine.register number
  | index => after.index = machine.index
  | stack => after.stack = machine.stack
  | delay => after.timers.delay = machine.timers.delay
  | sound => after.timers.sound = machine.timers.sound
  | screen => after.screen = machine.screen
  | keypad => after.keypad = machine.keypad
  | entropy => after.entropy = machine.entropy
  | name => after.name = machine.name

/-- The operations that report a flag: sums, differences and shifts. -/
def Arithmetic.reports : Arithmetic → Bool
  | assign | or | and | xor => false
  | add | sub | shiftRight | subReverse | shiftLeft => true

/-- An operation has a flag iff it is one that reports. -/
theorem Arithmetic.eval_flag (operation : Arithmetic) (vx vy : Byte) :
    (operation.eval vx vy).2.isSome = operation.reports := by
  cases operation <;> rfl

namespace Machine

/-- Whether an instruction may change a part. Memory is reached through the index register, from
which distances wrap around its end, and the font is never reached. -/
def reaches (machine : Machine) (instruction : Instruction) : Part → Bool
  | .cell address =>
    !Font.covers address &&
      match instruction with
      | .storeDecimal _ => (address - machine.index).val ≤ 2
      | .storeRegisters x => (address - machine.index).val ≤ x.val
      | _ => false
  | .register register =>
    match instruction with
    | .load x _ | .add x _ | .random x _ | .getDelay x => register == x
    | .arithmetic operation x _ => register == x || operation.reports && register == flagRegister
    | .awaitKey x => register == x && machine.keypad.firstDown?.isSome
    | .draw _ _ _ => register == flagRegister
    | .loadRegisters x => register ≤ x
    | _ => false
  | .index => match instruction with
    | .loadIndex _ | .addIndex _ | .glyph _ => true
    | _ => false
  | .stack => match instruction with
    | .call _ | .ret => true
    | _ => false
  | .delay => match instruction with
    | .setDelay _ => true
    | _ => false
  | .sound => match instruction with
    | .setSound _ => true
    | _ => false
  | .screen => match instruction with
    | .clearScreen | .draw _ _ _ => true
    | _ => false
  | .entropy => match instruction with
    | .random _ _ => true
    | _ => false
  | .keypad | .name => false

variable {machine after : Machine} {part : Part}

/-! ## Single changes -/

/-- Storing a register changes this register only. -/
theorem setRegister_same {number : Register} (byte : Byte) (apart : part ≠ .register number) :
    part.Same machine (machine.setRegister number byte) := by
  cases part with
  | register other =>
    have differs : other ≠ number := fun same => apart (congrArg _ same)
    exact (register_setRegister machine number other byte).trans (if_neg differs)
  | _ => exact rfl

/-- The result of an operation goes into one register, its flag into the last. -/
theorem setResult_same {number : Register} {result : Byte × Option Byte}
    (apart : part ≠ .register number)
    (unflagged : result.2.isSome = true → part ≠ .register flagRegister) :
    part.Same machine (machine.setResult number result) := by
  obtain ⟨byte, flag⟩ := result
  have stored : part.Same machine (machine.setRegister number byte) := setRegister_same byte apart
  cases flag with
  | none => exact stored
  | some flag =>
    have flagged : part.Same (machine.setRegister number byte) (machine.setResult number (byte, some flag)) :=
      setRegister_same flag (unflagged rfl)
    cases part <;> exact flagged.trans stored

end Machine

/-- A write changes the byte at its address only, and none in the font. -/
theorem Memory.read_write {memory : Memory} {place address : Address} {byte : Byte}
    (apart : place ≠ address ∨ Font.covers place = true) :
    (memory.write address byte).read place = memory.read place := by
  unfold write
  split
  case isTrue => rfl
  case isFalse uncovered =>
    have differs : address.val ≠ place.val := by
      intro same
      obtain rfl : address = place := Fin.ext same
      rcases apart with apart | covered
      · exact apart rfl
      · exact uncovered covered
    exact Vector.getElem_set_ne address.isLt place.isLt differs

/-- Several writes change the bytes at their addresses only, and none in the font. -/
theorem Memory.read_writeAll {memory : Memory} {place : Address} {writes : List (Address × Byte)}
    (apart : place ∉ writes.map Prod.fst ∨ Font.covers place = true) :
    (memory.writeAll writes).read place = memory.read place := by
  induction writes generalizing memory with
  | nil => rfl
  | cons write later inductionHypothesis =>
    have here : place ≠ write.1 ∨ Font.covers place = true :=
      apart.imp_left fun absent same => absent (same ▸ List.mem_cons_self)
    have there : place ∉ later.map Prod.fst ∨ Font.covers place = true :=
      apart.imp_left fun absent member => absent (List.mem_cons_of_mem _ member)
    calc
      (memory.writeAll (write :: later)).read place =
          ((memory.write write.1 write.2).writeAll later).read place := rfl
      _ = (memory.write write.1 write.2).read place := inductionHypothesis there
      _ = memory.read place := Memory.read_write here

namespace Machine
variable {machine after : Machine} {part : Part}

/-! ## Instructions -/

/-- The distance of a place from an address it was counted from. -/
theorem distance_ofNat (address : Address) {offset : Nat} (small : offset < 4096) :
    (address + Fin.ofNat 4096 offset - address).val = offset := by
  have bound : address.val < 4096 := address.isLt
  simp only [Fin.sub_def, Fin.val_add, Fin.val_ofNat]
  omega

/-- The bytes an instruction stores are in its reach, unless the font keeps them. -/
theorem reaches_of_stores {instruction : Instruction} {place : Address}
    (stored : place ∈ (machine.stores instruction).map Prod.fst)
    (uncovered : Font.covers place = false) : machine.reaches instruction (.cell place) = true := by
  cases instruction with
  | storeDecimal x =>
    obtain ⟨offset, upTo, rfl⟩ : ∃ offset, offset ≤ 2 ∧
        machine.index + Fin.ofNat 4096 offset = place := by
      rcases List.mem_cons.mp stored with same | stored
      · exact ⟨0, by decide, (Fin.add_zero machine.index).trans same.symm⟩
      rcases List.mem_cons.mp stored with same | stored
      · exact ⟨1, by decide, same.symm⟩
      · exact ⟨2, by decide, (List.mem_singleton.mp stored).symm⟩
    have distance := distance_ofNat machine.index (show offset < 4096 by omega)
    change (!Font.covers _ && decide (_ ≤ 2)) = true
    rw [uncovered, distance]
    exact decide_eq_true upTo
  | storeRegisters x =>
    obtain ⟨number, upTo, rfl⟩ : ∃ number : Register, number ≤ x ∧
        machine.index + Fin.ofNat 4096 number.val = place := by
      simpa [stores] using stored
    have distance := distance_ofNat machine.index (show number.val < 4096 by omega)
    change (!Font.covers _ && decide (_ ≤ x.val)) = true
    rw [uncovered, distance]
    exact decide_eq_true upTo
  | _ => nomatch stored

/-- The stores of an instruction leave a byte out of its reach. -/
theorem read_stored {instruction : Instruction} {place : Address}
    (outside : machine.reaches instruction (.cell place) = false) :
    (machine.memory.writeAll (machine.stores instruction)).read place = machine.memory.read place := by
  refine Memory.read_writeAll ?_
  cases covered : Font.covers place with
  | true => exact .inr rfl
  | false =>
    refine .inl fun stored => ?_
    exact Bool.false_ne_true (outside.symm.trans (reaches_of_stores stored covered))

/-- A register above the loaded ones stays what it is. -/
theorem loadedRegisters_same {number x : Register} (above : ¬ number ≤ x) :
    register { machine with registers := machine.loadedRegisters x } number =
      machine.register number := by
  rw [register, loadedRegisters, Fin.getElem_fin, Vector.getElem_ofFn]
  exact if_neg above

/-- No instruction changes a part out of its reach. -/
theorem changed_same {instruction : Instruction}
    (outside : machine.reaches instruction part = false) :
    part.Same machine (machine.changed instruction) := by
  have beyond {reached : Part} (within : machine.reaches instruction reached = true) :
      part ≠ reached := by
    rintro rfl
    exact Bool.false_ne_true (outside.symm.trans within)
  cases instruction with
  | ret =>
    unfold changed
    cases machine.stack.pop? with
    | none => cases part <;> exact rfl
    | some result =>
      cases part with
      | stack => exact absurd rfl (beyond rfl)
      | _ => exact rfl
  | call nnn =>
    unfold changed
    cases machine.stack.push? machine.pc with
    | none => cases part <;> exact rfl
    | some stack =>
      cases part with
      | stack => exact absurd rfl (beyond rfl)
      | _ => exact rfl
  | awaitKey x =>
    unfold changed
    cases found : machine.keypad.firstDown? with
    | none => cases part <;> exact rfl
    | some key =>
      have within : machine.reaches (.awaitKey x) (.register x) = true := by
        change (x == x && machine.keypad.firstDown?.isSome) = true
        rw [found, beq_self_eq_true]
        rfl
      exact setRegister_same _ (beyond within)
  | load x nn | add x nn | getDelay x => exact setRegister_same _ (beyond (beq_self_eq_true x))
  | arithmetic operation x y =>
    refine setResult_same (beyond (Bool.or_eq_true_iff.mpr (.inl (beq_self_eq_true x)))) ?_
    intro flagged
    rw [Arithmetic.eval_flag] at flagged
    refine beyond (Bool.or_eq_true_iff.mpr (.inr ?_))
    rw [flagged]
    rfl
  | random x nn =>
    let taken : Machine := { machine with entropy := machine.entropy.rest }
    have stored : part.Same taken (taken.setRegister x (nn &&& machine.entropy.byte)) :=
      setRegister_same _ (beyond (beq_self_eq_true x))
    cases part with
    | entropy => exact absurd rfl (beyond rfl)
    | _ => exact stored
  | draw x y n =>
    generalize drawn : machine.screen.draw (machine.register x).toNat (machine.register y).toNat
      (machine.sprite n) = result
    let shown : Machine := { machine with screen := result.1 }
    have same : machine.changed (.draw x y n) =
        shown.setRegister flagRegister (Byte.ofFlag result.2) := by
      simp only [changed, drawSprite, drawn]
      rfl
    have stored : part.Same shown (shown.setRegister flagRegister (Byte.ofFlag result.2)) :=
      setRegister_same _ (beyond (beq_self_eq_true flagRegister))
    rw [same]
    cases part with
    | screen => exact absurd rfl (beyond rfl)
    | _ => exact stored
  | clearScreen =>
    cases part with
    | screen => exact absurd rfl (beyond rfl)
    | _ => exact rfl
  | loadIndex _ | addIndex _ | glyph _ =>
    cases part with
    | index => exact absurd rfl (beyond rfl)
    | _ => exact rfl
  | setDelay x =>
    cases part with
    | delay => exact absurd rfl (beyond rfl)
    | _ => exact rfl
  | setSound x =>
    cases part with
    | sound => exact absurd rfl (beyond rfl)
    | _ => exact rfl
  | storeDecimal x | storeRegisters x =>
    cases part with
    | cell place => exact read_stored outside
    | _ => exact rfl
  | loadRegisters x =>
    have above {number : Register} (greater : ¬ number ≤ x) := machine.loadedRegisters_same greater
    change part.Same machine { machine with registers := machine.loadedRegisters x }
    generalize machine.loadedRegisters x = registers at above ⊢
    cases part with
    | register number => exact above (of_decide_eq_false outside)
    | _ => exact rfl
  | _ => cases part <;> exact rfl

/-- An instruction that succeeds changes no part out of its reach. -/
theorem execute_same {instruction : Instruction} {signal : Signal}
    (done : machine.execute instruction = .ok (after, signal))
    (outside : machine.reaches instruction part = false) : part.Same machine after := by
  rw [(execute_done done).1]
  have moved := changed_same outside
  cases part <;> exact moved

/-! ## Cycles -/

/-- A cycle that changes a part executes an instruction with this part in its reach. -/
theorem cycle_changed (changed : ¬ part.Same machine machine.cycle.1) :
    ∃ word instruction, machine.executed? = some word ∧
      Instruction.ofWord? word = some instruction ∧ machine.reaches instruction part = true := by
  generalize ran : machine.cycle = result at changed
  obtain ⟨after, answer⟩ := result
  cases cycle_end ran with
  | unreadable cause unread => exact absurd (by cases part <;> exact rfl) changed
  | passedOver word read unknown => exact absurd (by cases part <;> exact rfl) changed
  | failed word instruction fault read known refused =>
    exact absurd (by cases part <;> exact rfl) changed
  | executed word instruction after signal read known done =>
    refine ⟨word, instruction, executed?_eq_some.mpr ⟨read, signal, congrArg Prod.snd ran⟩, known, ?_⟩
    by_contra out
    have same := execute_same done (Bool.eq_false_iff.mpr out)
    exact changed (by cases part <;> exact same)

/-- What a cycle tells of the instruction its word stands for, if any. -/
def signalTo (machine : Machine) : Option Instruction → Signal
  | some instruction => machine.signalOf instruction
  | none => .quiet

/-- A cycle that executes a word, or passes it over, tells what is to be told of the word. -/
theorem cycle_signal {word : Word} (executed : machine.executed? = some word) :
    machine.cycle.2 = .ok (machine.signalTo (Instruction.ofWord? word)) := by
  obtain ⟨read, signal, answered⟩ := executed?_eq_some.mp executed
  generalize ran : machine.cycle = result at answered ⊢
  obtain ⟨after, answer⟩ := result
  obtain rfl : answer = .ok signal := answered
  cases cycle_end ran with
  | passedOver other readToo unknown =>
    obtain rfl : word = other := Except.ok.inj (read.symm.trans readToo)
    rw [unknown]
    rfl
  | executed other instruction after signal readToo known done =>
    obtain rfl : word = other := Except.ok.inj (read.symm.trans readToo)
    rw [known, (execute_done done).2]
    rfl

/-- A cycle that succeeds has executed a word, or passed one over. -/
theorem executed_of_ok {signal : Signal} (answered : machine.cycle.2 = .ok signal) :
    ∃ word, machine.executed? = some word := by
  cases read : machine.memory.word machine.pc with
  | error cause => simp [cycle_of_error read] at answered
  | ok word => exact ⟨word, executed?_eq_some.mpr ⟨read, signal, answered⟩⟩

/-- A cycle tells what is to be told of the word it executes or passes over, and nothing else. -/
theorem answered_iff {signal : Signal} :
    machine.cycle.2 = .ok signal ↔ ∃ word, machine.executed? = some word ∧
      machine.signalTo (Instruction.ofWord? word) = signal := by
  constructor
  · intro answered
    obtain ⟨word, executed⟩ := executed_of_ok answered
    exact ⟨word, executed, Except.ok.inj ((cycle_signal executed).symm.trans answered)⟩
  · rintro ⟨word, executed, told⟩
    rw [cycle_signal executed, told]

/-- Only calls and returns can fail once their word is read. -/
theorem executed_of_read {word : Word} (read : machine.memory.word machine.pc = .ok word)
    (noReturn : word ≠ 0x00EE) (noCall : word.isCall = false) : machine.executed? = some word := by
  refine executed?_eq_some.mpr ⟨read, ?_⟩
  cases answered : machine.cycle.2 with
  | ok signal => exact ⟨signal, rfl⟩
  | error fault =>
    rcases cycle_error.mp answered with ⟨last, _⟩ | ⟨readToo, _⟩ | ⟨⟨other, readToo, calls⟩, _⟩
    · exact absurd last (Memory.word_ok.mp read).1
    · exact absurd (Except.ok.inj (read.symm.trans readToo)) noReturn
    · obtain rfl : word = other := Except.ok.inj (read.symm.trans readToo)
      exact absurd calls (Bool.eq_false_iff.mp noCall)

/-- The words that draw are told as drawn. -/
theorem signalTo_eq_drawn {word : Word} :
    machine.signalTo (Instruction.ofWord? word) = .drawn ↔ word.isDrawing = true := by
  constructor
  · intro told
    cases known : Instruction.ofWord? word with
    | none => simp [known, signalTo] at told
    | some instruction =>
      rw [known] at told
      cases instruction with
      | clearScreen => simp [Word.isDrawing, Instruction.ofWord?_eq_clearScreen.mp known]
      | draw x y n => simp [Word.isDrawing, Instruction.ofWord?_eq_draw.mp ⟨x, y, n, known⟩]
      | awaitKey x =>
        cases found : machine.keypad.firstDown? <;> simp [signalTo, signalOf, found] at told
      | _ => simp [signalTo, signalOf] at told
  · intro draws
    have cases : word = 0x00E0 ∨ word.family = 0xD := by simpa [Word.isDrawing] using draws
    rcases cases with clears | same
    · rw [Instruction.ofWord?_eq_clearScreen.mpr clears]
      rfl
    · obtain ⟨x, y, n, known⟩ := Instruction.ofWord?_eq_draw.mpr same
      rw [known]
      rfl

/-- The words that wait are told as waiting while no key is down. -/
theorem signalTo_eq_waiting {word : Word} :
    machine.signalTo (Instruction.ofWord? word) = .waiting ↔
      word.isAwaiting = true ∧ ∀ key, machine.keypad.isDown key = false := by
  rw [← Keypad.firstDown?_eq_none]
  constructor
  · intro told
    cases known : Instruction.ofWord? word with
    | none => simp [known, signalTo] at told
    | some instruction =>
      rw [known] at told
      cases instruction with
      | awaitKey x =>
        cases found : machine.keypad.firstDown? with
        | none => exact ⟨Instruction.ofWord?_eq_awaitKey.mp ⟨x, known⟩, rfl⟩
        | some key => simp [signalTo, signalOf, found] at told
      | _ => simp [signalTo, signalOf] at told
  · rintro ⟨awaits, found⟩
    obtain ⟨x, known⟩ := Instruction.ofWord?_eq_awaitKey.mpr awaits
    simp [known, signalTo, signalOf, found]

/-- Words that draw or wait are neither calls nor returns. -/
theorem executed_of_signal {word : Word} (read : machine.memory.word machine.pc = .ok word)
    (notable : word.isDrawing = true ∨ word.isAwaiting = true) : machine.executed? = some word := by
  have families : word = 0x00E0 ∨ word.family = 0xD ∨ word.family = 0xF := by
    rcases notable with draws | awaits
    · have either : word = 0x00E0 ∨ word.family = 0xD := by simpa [Word.isDrawing] using draws
      exact either.imp_right .inl
    · have both : word.family = 0xF ∧ word.byte = 0x0A := by simpa [Word.isAwaiting] using awaits
      exact .inr (.inr both.1)
  refine executed_of_read read ?_ ?_
  · rintro rfl
    revert families
    decide
  · rcases families with rfl | same | same
    · decide
    · simp [Word.isCall, same]
    · simp [Word.isCall, same]

/-- What a cycle may change and what it answers.

A part changes only under a cycle that executes an instruction with this part in its reach. A
random instruction takes one byte off the random source and keeps its masked bits. A word that
stands for no instruction moves the counter past itself and is kept in the opcode register, and
that is all. A cycle answers that it drew iff its word draws, that it waits iff its word waits
and no key is down, and nothing in particular for all other words it executes or passes over. -/
theorem frame_of_cycle (machine : Machine) :
    (∀ part, ¬ part.Same machine machine.cycle.1 →
      ∃ word instruction, machine.executed? = some word ∧ instruction.encode = word ∧
        Instruction.ofWord? word = some instruction ∧ machine.reaches instruction part = true) ∧
    (∀ word x nn, machine.memory.word machine.pc = .ok word →
      Instruction.ofWord? word = some (.random x nn) →
      machine.cycle.1.entropy = machine.entropy.rest ∧
        machine.cycle.1.register x = machine.entropy.byte &&& nn) ∧
    (∀ word, machine.memory.word machine.pc = .ok word → Instruction.ofWord? word = none →
      machine.cycle =
        ({ machine with pc := Fin.ofNat 4096 (machine.pc.val + 2), opcode := word }, .ok .quiet)) ∧
    (machine.cycle.2 = .ok .drawn ↔
      ∃ word, machine.memory.word machine.pc = .ok word ∧ word.isDrawing = true) ∧
    (machine.cycle.2 = .ok .waiting ↔
      ∃ word, machine.memory.word machine.pc = .ok word ∧ word.isAwaiting = true ∧
        ∀ key, machine.keypad.isDown key = false) ∧
    (machine.cycle.2 = .ok .quiet ↔
      ∃ word, machine.executed? = some word ∧ word.isDrawing = false ∧
        ¬ (word.isAwaiting = true ∧ ∀ key, machine.keypad.isDown key = false)) := by
  refine ⟨?_, ?_, fun word => cycle_of_unknown, ?_, ?_, ?_⟩
  · intro part changed
    obtain ⟨word, instruction, executed, known, reached⟩ := cycle_changed changed
    exact ⟨word, instruction, executed, Instruction.encode_of_ofWord? known, known, reached⟩
  · intro word x nn read known
    have ran := cycle_of_done read known rfl
    rw [ran]
    refine ⟨rfl, (Vector.getElem_set_self x.isLt).trans ?_⟩
    exact UInt8.and_comm ..
  · constructor
    · intro drew
      obtain ⟨word, executed, told⟩ := answered_iff.mp drew
      exact ⟨word, (executed?_eq_some.mp executed).1, signalTo_eq_drawn.mp told⟩
    · rintro ⟨word, read, draws⟩
      exact answered_iff.mpr ⟨word, executed_of_signal read (.inl draws), signalTo_eq_drawn.mpr draws⟩
  · constructor
    · intro waited
      obtain ⟨word, executed, told⟩ := answered_iff.mp waited
      exact ⟨word, (executed?_eq_some.mp executed).1, signalTo_eq_waiting.mp told⟩
    · rintro ⟨word, read, awaits, allUp⟩
      exact answered_iff.mpr ⟨word, executed_of_signal read (.inr awaits),
        signalTo_eq_waiting.mpr ⟨awaits, allUp⟩⟩
  · constructor
    · intro quiet
      obtain ⟨word, executed, told⟩ := answered_iff.mp quiet
      refine ⟨word, executed, Bool.eq_false_iff.mpr fun draws => ?_, fun awaits => ?_⟩
      · nomatch told.symm.trans (signalTo_eq_drawn.mpr draws)
      · nomatch told.symm.trans (signalTo_eq_waiting.mpr awaits)
    · rintro ⟨word, executed, noDrawing, noWaiting⟩
      refine answered_iff.mpr ⟨word, executed, ?_⟩
      cases told : machine.signalTo (Instruction.ofWord? word) with
      | quiet => rfl
      | waiting => exact absurd (signalTo_eq_waiting.mp told) noWaiting
      | drawn => exact absurd (signalTo_eq_drawn.mp told) (Bool.eq_false_iff.mp noDrawing)

/-- A machine at a random instruction for the flag register. Register `n` holds `n`. -/
def atRandom : Machine where
  name := "dice"
  memory := Memory.writeAll ⟨Vector.replicate 4096 0⟩ [(0x200, 0xCF), (0x201, 0x3C)]
  registers := Vector.ofFn fun number => UInt8.ofNat number.val
  index := 0
  pc := Fin.ofNat 4096 programStart
  opcode := 0
  stack := .empty
  timers := .finished
  screen := .blank
  keypad := .released
  entropy := ⟨fun _ => 0xA5, 7⟩

/-- The random byte goes into the flag register, masked, and into no other. -/
theorem random_into_flag :
    atRandom.cycle.1.register 0xF = 0x24 ∧ atRandom.cycle.1.entropy.taken = 8 ∧
      atRandom.cycle.1.register 0xE = 0xE ∧ atRandom.cycle.2 = .ok .quiet := by
  obtain ⟨changes, random, _, _, _, quiet⟩ := frame_of_cycle atRandom
  have read : atRandom.memory.word atRandom.pc = .ok 0xCF3C := Memory.word_ok.mpr (by decide +kernel)
  have known : Instruction.ofWord? 0xCF3C = some (.random 0xF 0x3C) := by decide
  have executed : atRandom.executed? = some 0xCF3C := executed_of_read read (by decide) (by decide)
  obtain ⟨taken, stored⟩ := random 0xCF3C 0xF 0x3C read known
  refine ⟨stored, congrArg Entropy.taken taken, ?_, ?_⟩
  · by_contra changed
    obtain ⟨word, instruction, executedToo, _, knownToo, reached⟩ := changes (.register 0xE) changed
    obtain rfl : 0xCF3C = word := Option.some.inj (executed.symm.trans executedToo)
    obtain rfl : .random 0xF 0x3C = instruction := Option.some.inj (known.symm.trans knownToo)
    nomatch reached
  · exact quiet.mpr ⟨0xCF3C, executed, by decide, by decide⟩

end Machine
end ChipEight
