import ChipEight.Machine.Cycle

/-!
# What cycles change

A cycle ends in one of four ways, each with one machine and one answer. The later theories
speak about a cycle through these four ways and through the laws below, which say for single
parts of the machine what an instruction does to them: the memory receives exactly the stores
of the instruction, and the screen changes only under an instruction that says so.

An action is anything that is done to a machine, by itself or from outside. A run of a machine
is a list of actions in any order; failures do not end it.
-/

namespace ChipEight

namespace Machine

/-- The four ends of a cycle. Only a fetch that fails leaves the machine as it was; a word
without an instruction and an instruction that fails have been fetched and passed. -/
inductive CycleEnd (machine : Machine) : Machine → Except Fault Signal → Prop
  | unreadable (cause : WordError) (unread : machine.memory.word machine.pc = .error cause) :
      CycleEnd machine machine (.error (.word cause))
  | passedOver (word : Word) (read : machine.memory.word machine.pc = .ok word)
      (unknown : Instruction.ofWord? word = none) :
      CycleEnd machine (machine.fetched word) (.ok .quiet)
  | failed (word : Word) (instruction : Instruction) (fault : Fault)
      (read : machine.memory.word machine.pc = .ok word)
      (known : Instruction.ofWord? word = some instruction)
      (refused : (machine.fetched word).execute instruction = .error fault) :
      CycleEnd machine (machine.fetched word) (.error fault)
  | executed (word : Word) (instruction : Instruction) (after : Machine) (signal : Signal)
      (read : machine.memory.word machine.pc = .ok word)
      (known : Instruction.ofWord? word = some instruction)
      (done : (machine.fetched word).execute instruction = .ok (after, signal)) :
      CycleEnd machine after (.ok signal)

/-- Every cycle has one of the four ends. -/
theorem cycle_end {machine after : Machine} {answer : Except Fault Signal}
    (ran : machine.cycle = (after, answer)) : CycleEnd machine after answer := by
  unfold cycle at ran
  cases read : machine.memory.word machine.pc with
  | error cause =>
    simp only [read, Prod.mk.injEq] at ran
    obtain ⟨rfl, rfl⟩ := ran
    exact .unreadable cause read
  | ok word =>
    cases known : Instruction.ofWord? word with
    | none =>
      simp only [read, known, Prod.mk.injEq] at ran
      obtain ⟨rfl, rfl⟩ := ran
      exact .passedOver word read known
    | some instruction =>
      cases done : (machine.fetched word).execute instruction with
      | error fault =>
        simp only [read, known, done, Prod.mk.injEq] at ran
        obtain ⟨rfl, rfl⟩ := ran
        exact .failed word instruction fault read known done
      | ok result =>
        simp only [read, known, done, Prod.mk.injEq] at ran
        obtain ⟨rfl, rfl⟩ := ran
        exact .executed word instruction result.1 result.2 read known done

/-- What an instruction that succeeds does to the parts of a machine. -/
structure Footprint (machine : Machine) (instruction : Instruction) (after : Machine)
    (signal : Signal) : Prop where
  /-- Memory receives the stores of the instruction and nothing else. -/
  memory : after.memory = machine.memory.writeAll (machine.stores instruction)
  /-- An instruction that changes the screen says so. -/
  screen : signal ≠ .drawn → after.screen = machine.screen
  keypad : after.keypad = machine.keypad
  name : after.name = machine.name

/-- Storing the result of an operation touches registers only. -/
theorem setResult_frame (machine : Machine) (x : Register) (result : Byte × Option Byte) :
    ∃ registers, machine.setResult x result = { machine with registers } := by
  obtain ⟨byte, flag⟩ := result
  cases flag with
  | none => exact ⟨_, rfl⟩
  | some flag => exact ⟨_, rfl⟩

/-- Every instruction leaves the footprint above.

The four instructions whose outcome depends on more than the instruction itself are looked at
one by one; all others leave a machine that can be read off. -/
theorem execute_footprint {machine after : Machine} {instruction : Instruction} {signal : Signal}
    (done : machine.execute instruction = .ok (after, signal)) :
    Footprint machine instruction after signal := by
  cases instruction with
  | ret =>
    cases popped : machine.stack.pop? with
    | none => simp [execute, popped] at done
    | some result =>
      simp only [execute, popped, finish, Except.ok.injEq, Prod.mk.injEq] at done
      obtain ⟨rfl, rfl⟩ := done
      exact ⟨rfl, fun _ => rfl, rfl, rfl⟩
  | call nnn =>
    cases pushed : machine.stack.push? machine.pc with
    | none => simp [execute, pushed] at done
    | some stack =>
      simp only [execute, pushed, finish, Except.ok.injEq, Prod.mk.injEq] at done
      obtain ⟨rfl, rfl⟩ := done
      exact ⟨rfl, fun _ => rfl, rfl, rfl⟩
  | awaitKey x =>
    cases found : machine.keypad.firstDown? with
    | none =>
      simp only [execute, found, Except.ok.injEq, Prod.mk.injEq] at done
      obtain ⟨rfl, rfl⟩ := done
      exact ⟨rfl, fun _ => rfl, rfl, rfl⟩
    | some key =>
      simp only [execute, found, finish, Except.ok.injEq, Prod.mk.injEq] at done
      obtain ⟨rfl, rfl⟩ := done
      exact ⟨rfl, fun _ => rfl, rfl, rfl⟩
  | arithmetic operation x y =>
    simp only [execute, finish, Except.ok.injEq, Prod.mk.injEq] at done
    obtain ⟨rfl, rfl⟩ := done
    obtain ⟨registers, stored⟩ :=
      machine.setResult_frame x (operation.eval (machine.register x) (machine.register y))
    rw [stored]
    exact ⟨rfl, fun _ => rfl, rfl, rfl⟩
  | clearScreen =>
    simp only [execute, Except.ok.injEq, Prod.mk.injEq] at done
    obtain ⟨rfl, rfl⟩ := done
    exact ⟨rfl, fun quiet => (quiet rfl).elim, rfl, rfl⟩
  | draw x y n =>
    simp only [execute, Except.ok.injEq, Prod.mk.injEq] at done
    obtain ⟨rfl, rfl⟩ := done
    exact ⟨rfl, fun quiet => (quiet rfl).elim, rfl, rfl⟩
  | loadRegisters x =>
    generalize loaded : machine.loadedRegisters x = registers
    simp only [execute, finish, loaded, Except.ok.injEq, Prod.mk.injEq] at done
    obtain ⟨rfl, rfl⟩ := done
    exact ⟨rfl, fun _ => rfl, rfl, rfl⟩
  | _ =>
    simp only [execute, finish, Except.ok.injEq, Prod.mk.injEq] at done
    obtain ⟨rfl, rfl⟩ := done
    exact ⟨rfl, fun _ => rfl, rfl, rfl⟩

/-- A cycle that changes the screen answers that it drew. The converse fails: a sprite without
rows is drawn, too. -/
theorem cycle_screen {machine after : Machine} {answer : Except Fault Signal}
    (ran : machine.cycle = (after, answer)) (quiet : answer ≠ .ok .drawn) :
    after.screen = machine.screen := by
  cases cycle_end ran with
  | unreadable cause unread => rfl
  | passedOver word read unknown => rfl
  | failed word instruction fault read known refused => rfl
  | executed word instruction after signal read known done =>
    have silent : signal ≠ .drawn := fun drawn => quiet (congrArg Except.ok drawn)
    exact (execute_footprint done).screen silent

/-- Cycles read keys and do not move them. -/
theorem cycle_keypad (machine : Machine) : machine.cycle.1.keypad = machine.keypad := by
  generalize ran : machine.cycle = result
  obtain ⟨after, answer⟩ := result
  cases cycle_end ran with
  | unreadable cause unread => rfl
  | passedOver word read unknown => rfl
  | failed word instruction fault read known refused => rfl
  | executed word instruction after signal read known done => exact (execute_footprint done).keypad

end Machine

/-- Everything that is done to a machine: its own cycles, a decoded instruction or a move given
from outside, a tick of the timers, and changes of the keys. -/
inductive Action
  | cycle
  | execute (instruction : Instruction)
  | step (move : Move)
  | tick
  | setKey (key : Key) (isDown : Bool)
  | setKeypad (keypad : Keypad)
  deriving DecidableEq

namespace Machine

/-- The machine an action leaves. A failed instruction leaves it as it was. -/
def act (machine : Machine) : Action → Machine
  | .cycle => machine.cycle.1
  | .execute instruction =>
    match machine.execute instruction with
    | .error _ => machine
    | .ok (after, _) => after
  | .step move => machine.step move
  | .tick => machine.tick
  | .setKey key isDown => machine.setKey key isDown
  | .setKeypad keypad => machine.setKeypad keypad

/-- The machine after several actions. -/
def run (machine : Machine) (actions : List Action) : Machine := actions.foldl act machine

end Machine
end ChipEight
