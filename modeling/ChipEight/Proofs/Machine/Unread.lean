import ChipEight.Proofs.Machine.Execution
import ChipEight.Proofs.Machine.Independence

/-!
# What a machine never reads

Three parts of a machine are only ever written by it: its name, the word it fetched last, and the time
for which the tone still sounds. They are shown to others and have no influence on what the machine
does.

Two machines are alike if they agree on all other parts, the random source and the bytes already taken
from it included. Whatever is done to two machines that are alike leaves machines that are alike, and
their cycles give the same answers. The law is shown for the tables of an instruction first; from there
on it goes through instructions, cycles, single actions and runs.
-/

namespace ChipEight
namespace Machine

/-- Two machines agree on everything but the name, the word fetched last and the time for which the tone
still sounds. -/
structure Alike (machine other : Machine) : Prop where
  memory : other.memory = machine.memory
  registers : other.registers = machine.registers
  index : other.index = machine.index
  pc : other.pc = machine.pc
  stack : other.stack = machine.stack
  delay : other.timers.delay = machine.timers.delay
  screen : other.screen = machine.screen
  keypad : other.keypad = machine.keypad
  /-- The same bytes in the same order, and as many of them taken. -/
  entropy : other.entropy = machine.entropy

/-- A machine with another name, another word fetched last and another time for its tone. -/
def relabelled (machine : Machine) (name : String) (opcode : Word) (sound : Countdown 8) : Machine :=
  { machine with name, opcode, timers.sound := sound }

variable {machine other : Machine} {name : String} {opcode : Word} {sound : Countdown 8}

/-- New labels leave a machine alike. -/
theorem relabelled_alike (machine : Machine) (name : String) (opcode : Word) (sound : Countdown 8) :
    machine.Alike (machine.relabelled name opcode sound) := by
  constructor <;> rfl

/-- Machines that are alike differ by their labels. -/
theorem Alike.eq_relabelled (alike : machine.Alike other) :
    other = machine.relabelled other.name other.opcode other.timers.sound := by
  obtain ⟨_, _, _, _, _, _, _, ⟨_, _⟩, _, _, _⟩ := other
  obtain ⟨rfl, rfl, rfl, rfl, rfl, rfl, rfl, rfl, rfl⟩ := alike
  rfl

/-! ## Instructions -/

/-- What an instruction changes does not depend on the labels.

Three instructions look at something that may not be there; for each other the two machines can be read
off, and they are alike part by part. -/
theorem changed_relabelled (machine : Machine) (instruction : Instruction) (name : String)
    (opcode : Word) (sound : Countdown 8) :
    (machine.changed instruction).Alike
      ((machine.relabelled name opcode sound).changed instruction) := by
  cases instruction with
  | ret =>
    have same : (machine.relabelled name opcode sound).stack = machine.stack := rfl
    simp only [changed, same]
    cases machine.stack.pop? <;> constructor <;> rfl
  | call nnn =>
    have same : (machine.relabelled name opcode sound).stack.push?
        (machine.relabelled name opcode sound).pc = machine.stack.push? machine.pc := rfl
    simp only [changed, same]
    cases machine.stack.push? machine.pc <;> constructor <;> rfl
  | awaitKey x =>
    have same : (machine.relabelled name opcode sound).keypad = machine.keypad := rfl
    simp only [changed, same]
    cases machine.keypad.firstDown? <;> constructor <;> rfl
  | arithmetic operation x y => cases operation <;> constructor <;> rfl
  | _ => constructor <;> rfl

/-- Where an instruction goes and what it tells does not depend on the labels. -/
theorem moveOf_relabelled (machine : Machine) (instruction : Instruction) :
    (machine.relabelled name opcode sound).moveOf instruction = machine.moveOf instruction ∧
      (machine.relabelled name opcode sound).signalOf instruction = machine.signalOf instruction := by
  cases instruction <;> exact ⟨rfl, rfl⟩

/-- Machines that are alike stay so if their counters are moved in the same way. -/
theorem Alike.step (alike : machine.Alike other) (move : Move) :
    (machine.step move).Alike (other.step move) :=
  { alike with pc := congrArg move.apply alike.pc }

/-- An instruction fails on both of two machines that are alike, with the same fault, or it succeeds on
both, tells the same and leaves them alike. -/
theorem Alike.execute (alike : machine.Alike other) (instruction : Instruction) :
    (∃ fault, machine.execute instruction = .error fault ∧ other.execute instruction = .error fault) ∨
      ∃ after afterToo signal, machine.execute instruction = .ok (after, signal) ∧
        other.execute instruction = .ok (afterToo, signal) ∧ after.Alike afterToo := by
  cases ran : machine.execute instruction with
  | error fault =>
    -- whether an instruction fails is a matter of the call stack
    have refused := execute_error.mp ran
    rw [← alike.stack] at refused
    exact .inl ⟨fault, rfl, execute_error.mpr refused⟩
  | ok result =>
    cases ranToo : other.execute instruction with
    | error fault =>
      have refused := execute_error.mp ranToo
      rw [alike.stack] at refused
      rw [execute_error.mpr refused] at ran
      nomatch ran
    | ok resultToo =>
      obtain ⟨after, signal⟩ := result
      obtain ⟨afterToo, signalToo⟩ := resultToo
      obtain ⟨rfl, rfl⟩ := execute_done ran
      obtain ⟨rfl, rfl⟩ := execute_done ranToo
      have changes : (machine.changed instruction).Alike (other.changed instruction) := by
        rw [alike.eq_relabelled]
        exact changed_relabelled machine instruction _ _ _
      obtain ⟨move, signal⟩ : other.moveOf instruction = machine.moveOf instruction ∧
          other.signalOf instruction = machine.signalOf instruction := by
        rw [alike.eq_relabelled]
        exact moveOf_relabelled machine instruction
      rw [move, signal]
      exact .inr ⟨_, _, _, rfl, rfl, changes.step _⟩

/-! ## Cycles and runs -/

/-- Machines that are alike fetch the same words. -/
theorem Alike.fetched (alike : machine.Alike other) (word : Word) :
    (machine.fetched word).Alike (other.fetched word) :=
  { alike with pc := congrArg (· + 2) alike.pc }

/-- A cycle answers the same on machines that are alike, also where it fails, and leaves them alike. -/
theorem Alike.cycle (alike : machine.Alike other) :
    other.cycle.2 = machine.cycle.2 ∧ machine.cycle.1.Alike other.cycle.1 := by
  have fetches : other.memory.word other.pc = machine.memory.word machine.pc := by
    rw [alike.memory, alike.pc]
  cases read : machine.memory.word machine.pc with
  | error cause =>
    rw [cycle_of_error read, cycle_of_error (fetches.trans read)]
    exact ⟨rfl, alike⟩
  | ok word =>
    have passed := alike.fetched word
    cases known : Instruction.ofWord? word with
    | none =>
      rw [cycle_of_unknown read known, cycle_of_unknown (fetches.trans read) known]
      exact ⟨rfl, passed⟩
    | some instruction =>
      rcases passed.execute instruction with
        ⟨fault, refused, refusedToo⟩ | ⟨after, afterToo, signal, done, doneToo, left⟩
      · rw [cycle_of_refused read known refused, cycle_of_refused (fetches.trans read) known refusedToo]
        exact ⟨rfl, passed⟩
      · rw [cycle_of_done read known done, cycle_of_done (fetches.trans read) known doneToo]
        exact ⟨rfl, left⟩

/-- Whatever is done to machines that are alike leaves them alike. A tick moves both timers of both
machines, and the delay timers stay the same. -/
theorem Alike.act (alike : machine.Alike other) (action : Action) :
    (machine.act action).Alike (other.act action) := by
  cases action with
  | cycle => exact alike.cycle.2
  | execute instruction =>
    rcases alike.execute instruction with
      ⟨fault, refused, refusedToo⟩ | ⟨after, afterToo, signal, done, doneToo, left⟩
    · simpa only [Machine.act, refused, refusedToo] using alike
    · simpa only [Machine.act, done, doneToo] using left
  | step move => exact alike.step move
  | tick => exact { alike with delay := congrArg Countdown.tick alike.delay }
  | setKey key isDown =>
    exact { alike with keypad := congrArg (fun keypad => keypad.set key isDown) alike.keypad }
  | setKeypad keypad => exact { alike with keypad := rfl }

/-- The name of a machine, the word it fetched last and the time of its tone do not influence what it
does.

Take two machines that agree on everything else, and do the same to both: cycles, ticks, changes of keys,
moves of the counter and instructions given from outside, in any order. Then every cycle answers the same
on both, with a signal or with a fault, and in the end the machines still agree on everything else.

Proof: by induction on what is done, where the law of a single action carries the agreement on. -/
theorem unread_parts_do_not_matter {machine other : Machine} (alike : machine.Alike other)
    (actions : List Action) :
    other.answersIn actions = machine.answersIn actions ∧
      (machine.run actions).Alike (other.run actions) := by
  induction actions generalizing machine other with
  | nil => exact ⟨rfl, alike⟩
  | cons action later inductionHypothesis =>
    obtain ⟨answers, left⟩ := inductionHypothesis (alike.act action)
    have answer : other.answerIn? action = machine.answerIn? action := by
      cases action with
      | cycle => exact congrArg some alike.cycle.1
      | _ => rfl
    refine ⟨?_, left⟩
    simp only [answersIn, answer, answers]

/-- A machine that starts its tone, reads the delay timer and takes a random byte. -/
def humming : Machine :=
  { boot ⟨"hum", #[0xF0, 0x18, 0xF1, 0x07, 0xC2, 0xFF], by decide⟩ ⟨fun count => UInt8.ofNat count, 0⟩ with
    timers := ⟨.ofByte 3, .finished⟩ }

/-- Under another name and with a tone that sounds already it reads the same delay and takes the same
random byte. -/
theorem humming_under_other_labels :
    let renamed := humming.relabelled "drone" 0xFFFF (.ofByte 9)
    let actions := [Action.tick, .cycle, .setKey 0x5 true, .cycle, .tick, .cycle]
    humming.Alike renamed ∧ humming.isBeeping = false ∧ renamed.isBeeping = true ∧
      renamed.answersIn actions = humming.answersIn actions ∧
      (renamed.run actions).registers = (humming.run actions).registers ∧
      (renamed.run actions).entropy.taken = (humming.run actions).entropy.taken := by
  intro renamed actions
  have alike : humming.Alike renamed := relabelled_alike humming _ _ _
  obtain ⟨answers, left⟩ := unread_parts_do_not_matter alike actions
  exact ⟨alike, rfl, rfl, answers, left.registers, congrArg Entropy.taken left.entropy⟩

end Machine
end ChipEight
