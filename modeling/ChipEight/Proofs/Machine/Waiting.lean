import ChipEight.Proofs.Machine.Counter
import ChipEight.Proofs.Machine.Independence

/-!
# Waiting for a key

A word that waits moves the counter past itself and back again, so that it is run once more in the
next cycle. Nothing else happens until a key is down: however many cycles are made and however the
ticks of the timers fall between them, the machine keeps everything but the word register and what
the ticks take off the timers. The cycle after a key went down stores the lowest such key and goes on.

From the last word of the memory the counter goes round to the first byte and back, which is the
same as not moving.
-/

namespace ChipEight

/-- Key writes and ticks change nothing but the keys and the timers. -/
theorem Machine.run_outside (machine : Machine) {writes : List Action}
    (fromOutside : ∀ action ∈ writes, action = .tick ∨ action.isKeyWrite = true) :
    ∃ timers keypad, machine.run writes = { machine with timers, keypad } := by
  induction writes generalizing machine with
  | nil => exact ⟨machine.timers, machine.keypad, rfl⟩
  | cons write later inductionHypothesis =>
    obtain ⟨first, rest⟩ := List.forall_mem_cons.mp fromOutside
    obtain ⟨clock, keys, changed⟩ : ∃ clock keys, machine.act write = machine.outside clock keys := by
      rcases first with rfl | isWrite
      · exact ⟨Timers.tick, id, rfl⟩
      · obtain ⟨keys, writes⟩ := Action.keys_of_isKeyWrite isWrite
        exact ⟨id, keys, (writes machine).1⟩
    obtain ⟨timers, keypad, left⟩ := inductionHypothesis (machine.act write) rest
    refine ⟨timers, keypad, left.trans ?_⟩
    rw [changed]
    rfl

namespace Machine
variable {machine : Machine} {word : Word}

/-- A word that waits, while no key is down, changes nothing but the word register. -/
theorem cycle_of_waits (read : machine.memory.word machine.pc = .ok word)
    (waits : machine.Waits word) :
    machine.cycle = ({ machine with opcode := word }, .ok .waiting) := by
  have noKey : machine.keypad.firstDown? = none := Keypad.firstDown?_eq_none.mpr waits.2
  have again : (machine.fetched word).execute (.awaitKey word.x) =
      .ok ((machine.fetched word).step .again, .waiting) := by
    have same : (machine.fetched word).keypad = machine.keypad := rfl
    simp only [execute, same, noKey]
  rw [cycle_of_done read (Instruction.ofWord?_of_isAwaiting waits.1) again]
  have back : (machine.fetched word).step .again = { machine with opcode := word } :=
    congrArg (fun pc => { machine with opcode := word, pc }) (Move.apply_again machine.pc)
  rw [back]

/-- A word that waits, once a key is down, stores the lowest such key and goes on. -/
theorem cycle_of_awaited {key : Key} (read : machine.memory.word machine.pc = .ok word)
    (awaits : word.isAwaiting = true) (lowest : machine.keypad.firstDown? = some key) :
    machine.cycle =
      (({ machine with opcode := word, pc := machine.pc + 2 } : Machine).setRegister word.x
        (UInt8.ofNat key.val), .ok .quiet) := by
  have stored : (machine.fetched word).execute (.awaitKey word.x) =
      ((machine.fetched word).setRegister word.x (UInt8.ofNat key.val)).finish .next := by
    have same : (machine.fetched word).keypad = machine.keypad := rfl
    simp only [execute, same, lowest]
  rw [cycle_of_done read (Instruction.ofWord?_of_isAwaiting awaits) stored]
  rfl

/-- However cycles and ticks follow each other while a machine waits, the cycles set the word
register and the ticks count down. -/
theorem run_of_waits (machine : Machine) {actions : List Action}
    (read : machine.memory.word machine.pc = .ok word)
    (waits : machine.Waits word) (idle : ∀ action ∈ actions, action = .cycle ∨ action = .tick) :
    ∃ opcode, machine.run actions =
        { machine with opcode, timers := machine.timers.ticks (actions.count .tick) } ∧
      (.cycle ∈ actions → opcode = word) ∧ (.cycle ∉ actions → opcode = machine.opcode) ∧
      machine.answersIn actions = List.replicate (actions.count .cycle) (.ok .waiting) := by
  induction actions generalizing machine with
  | nil => exact ⟨machine.opcode, rfl, by simp, fun _ => rfl, rfl⟩
  | cons action later inductionHypothesis =>
    obtain ⟨first, rest⟩ := List.forall_mem_cons.mp idle
    rcases first with rfl | rfl
    · have ran := cycle_of_waits read waits
      obtain ⟨opcode, left, fetched, kept, answers⟩ :=
        inductionHypothesis { machine with opcode := word } read waits rest
      have word_kept : opcode = word := (em (.cycle ∈ later)).elim fetched kept
      refine ⟨opcode, ?_, fun _ => word_kept, by simp, ?_⟩
      · change machine.cycle.1.run later = _
        rw [ran, left, List.count_cons_of_ne (by decide)]
      · simp only [answersIn, act, answerIn?, ran, Option.toList_some, List.singleton_append, answers,
          List.count_cons_self, List.replicate_succ]
    · obtain ⟨opcode, left, fetched, kept, answers⟩ :=
        inductionHypothesis machine.tick read waits rest
      have ticked : (machine.timers.ticks ((Action.tick :: later).count .tick)) =
          machine.tick.timers.ticks (later.count .tick) := by
        rw [List.count_cons_self, Timers.ticks, Countdown.ticks_succ, Countdown.ticks_succ]
        rfl
      refine ⟨opcode, ?_, by simpa using fetched, fun none => kept (by simpa using none), ?_⟩
      · rw [ticked]
        exact left
      · rw [List.count_cons_of_ne (by decide)]
        exact answers

/-- How a machine waits for a key.

While a machine is at a word that waits and no key is down, any number of cycles and ticks in any
order changes the word register, which holds the word after the first cycle, and the timers, each
of which loses one per tick until it is zero. Nothing else changes, and every cycle answers that it
waits. Once key writes, with ticks among them, have left some key down, the next cycle stores the
lowest such key in the register the word names, moves the counter past the word, and changes
nothing else but the word register. -/
theorem waiting_ends_with_lowest_key (machine : Machine) (word : Word) (actions : List Action)
    (read : machine.memory.word machine.pc = .ok word) (waits : machine.Waits word)
    (idle : ∀ action ∈ actions, action = .cycle ∨ action = .tick) :
    (∃ opcode timers, machine.run actions = { machine with opcode, timers } ∧
      (.cycle ∈ actions → opcode = word) ∧ (.cycle ∉ actions → opcode = machine.opcode) ∧
      timers.delay.left.toNat = machine.timers.delay.left.toNat - actions.count .tick ∧
      timers.sound.left.toNat = machine.timers.sound.left.toNat - actions.count .tick) ∧
    machine.answersIn actions = List.replicate (actions.count .cycle) (.ok .waiting) ∧
    ∀ writes pressed, (∀ action ∈ writes, action = .tick ∨ action.isKeyWrite = true) →
      pressed = (machine.run actions).run writes →
      (∃ key, pressed.keypad.isDown key = true) →
      ∃ key, pressed.keypad.isDown key = true ∧
        (∀ lower < key, pressed.keypad.isDown lower = false) ∧
        pressed.cycle =
          (({ pressed with
              opcode := word
              pc := Fin.ofNat 4096 (machine.pc.val + 2) } : Machine).setRegister word.x
            (UInt8.ofNat key.val), .ok .quiet) := by
  obtain ⟨opcode, left, fetched, kept, answers⟩ := run_of_waits machine read waits idle
  refine ⟨⟨opcode, _, left, fetched, kept, Countdown.toNat_ticks _ _, Countdown.toNat_ticks _ _⟩,
    answers, ?_⟩
  rintro writes pressed fromOutside reached ⟨down, isDown⟩
  obtain ⟨timers, keypad, changed⟩ := run_outside (machine.run actions) fromOutside
  rw [← reached, left] at changed
  have readStill : pressed.memory.word pressed.pc = .ok word := by rw [changed]; exact read
  have sameCounter : pressed.pc = machine.pc := by rw [changed]
  cases lowest : pressed.keypad.firstDown? with
  | none => simp [Keypad.firstDown?_eq_none.mp lowest down] at isDown
  | some key =>
    obtain ⟨isLowest, above⟩ := Keypad.firstDown?_eq_some.mp lowest
    refine ⟨key, isLowest, above, ?_⟩
    rw [cycle_of_awaited readStill waits.1 lowest, sameCounter]
    rfl

/-- A machine that waits at the last word of its memory, with both timers running. -/
def waitingAtEnd : Machine where
  name := "wait"
  memory := Memory.writeAll ⟨Vector.replicate 4096 0⟩ [(0xFFE, 0xF7), (0xFFF, 0x0A)]
  registers := Vector.replicate 16 0xEE
  index := 0
  pc := 0xFFE
  opcode := 0
  stack := .empty
  timers := ⟨.ofByte 9, .ofByte 1⟩
  screen := .blank
  keypad := .released
  entropy := ⟨fun _ => 0, 0⟩

/-- Two ticks among the cycles stop one of the timers. Then two keys go down; the lower one is
stored, and the counter goes round to the first byte. -/
theorem lower_key_ends_waiting :
    let waited := waitingAtEnd.run [.cycle, .tick, .cycle, .tick]
    let pressed := waited.run [.setKey 0xB true, .setKey 0x4 true]
    waited.pc = 0xFFE ∧ waited.timers.delay.left.toNat = 7 ∧ waited.timers.sound.left.toNat = 0 ∧
      pressed.cycle.1.register 7 = 4 ∧ pressed.cycle.1.pc = 0 ∧ pressed.cycle.2 = .ok .quiet := by
  intro waited pressed
  have read : waitingAtEnd.memory.word waitingAtEnd.pc = .ok 0xF70A :=
    Memory.word_ok.mpr (by decide +kernel)
  have waits : waitingAtEnd.Waits 0xF70A := ⟨by decide, Keypad.firstDown?_eq_none.mp rfl⟩
  obtain ⟨⟨opcode, timers, left, _, _, delay, sound⟩, _, woken⟩ :=
    waiting_ends_with_lowest_key waitingAtEnd 0xF70A [.cycle, .tick, .cycle, .tick] read waits (by decide)
  have keypad : pressed.keypad = (Keypad.released.set 0xB true).set 0x4 true :=
    congrArg (fun machine => (machine.keypad.set 0xB true).set 0x4 true) left
  have keys : ∀ key, pressed.keypad.isDown key = true ↔ key = 0x4 ∨ key = 0xB := by
    rw [keypad]
    decide
  obtain ⟨key, isDown, above, ran⟩ := woken [.setKey 0xB true, .setKey 0x4 true] pressed (by decide) rfl
    ⟨0xB, (keys 0xB).mpr (.inr rfl)⟩
  obtain rfl : key = 0x4 := by
    rcases (keys key).mp isDown with same | rfl
    · exact same
    · exact absurd (above 0x4 (by decide)) (by simp [(keys 0x4).mpr])
  refine ⟨?_, ?_, ?_, ?_, ?_, ?_⟩
  · exact congrArg Machine.pc left
  · rw [show waited.timers = timers from congrArg Machine.timers left, delay]
    decide
  · rw [show waited.timers = timers from congrArg Machine.timers left, sound]
    decide
  · rw [ran, register_setRegister]
    rfl
  · rw [ran]
    rfl
  · rw [ran]

end Machine
end ChipEight
