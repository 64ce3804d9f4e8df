import ChipEight.Proofs.Machine.Failure
import Mathlib.Data.List.Infix

/-!
# Calls and returns

A cycle that succeeds pushes the address past itself if it is a call, pops the latest address
if it is a return, and otherwise leaves the call stack alone; so does everything else that
happens to a running machine. From this one step law follow the two laws of whole runs.

The depth of the stack is the count of calls less the count of returns. And as long as a run
does not go below the depth a call has left, the addresses the call left behind lie untouched
under whatever is pushed later, so that a return at this depth goes back past the call and
restores the stack from before it. Nothing is asked of the program, which may jump anywhere,
overwrite itself and fail.
-/

namespace ChipEight

/-- Whether an action is one of those that happen while a machine runs: cycles, ticks and
changes of the keys. Nobody else executes instructions or moves the counter. -/
def Action.isOrdinary : Action → Bool
  | .cycle | .tick | .setKey _ _ | .setKeypad _ => true
  | .execute _ | .step _ => false

namespace Machine

/-- What an instruction that succeeds does to the call stack and, where it uses the stack, to
the counter. -/
inductive StackEffect (machine : Machine) : Instruction → Machine → Prop
  | pushed (nnn : Address) (after : Machine) (room : machine.stack.depth < 16)
      (entries : after.stack.entries = machine.pc :: machine.stack.entries) :
      StackEffect machine (.call nnn) after
  | popped (after : Machine) (entries : machine.stack.entries = after.pc :: after.stack.entries) :
      StackEffect machine .ret after
  | kept (instruction : Instruction) (after : Machine)
      (noCall : ∀ nnn, instruction ≠ .call nnn) (noReturn : instruction ≠ .ret)
      (same : after.stack = machine.stack) :
      StackEffect machine instruction after

/-- Every instruction has the effect above. -/
theorem execute_stack {machine after : Machine} {instruction : Instruction} {signal : Signal}
    (done : machine.execute instruction = .ok (after, signal)) :
    StackEffect machine instruction after := by
  cases instruction with
  | call nnn =>
    cases pushed : machine.stack.push? machine.pc with
    | none => simp [execute, pushed] at done
    | some stack =>
      simp only [execute, pushed, finish, Except.ok.injEq, Prod.mk.injEq] at done
      obtain ⟨rfl, rfl⟩ := done
      obtain ⟨room, entries⟩ := CallStack.push?_some pushed
      exact .pushed nnn _ room entries
  | ret =>
    cases popped : machine.stack.pop? with
    | none => simp [execute, popped] at done
    | some result =>
      simp only [execute, popped, finish, Except.ok.injEq, Prod.mk.injEq] at done
      obtain ⟨rfl, rfl⟩ := done
      have landed : (Move.jump result.1.val).apply machine.pc = result.1 := Fin.ofNat_val_eq_self _
      exact .popped _ (by simp [step, landed, CallStack.pop?_some popped])
  | awaitKey x =>
    refine .kept _ _ (by simp) (by simp) ?_
    cases found : machine.keypad.firstDown? <;>
      simp only [execute, found, finish, Except.ok.injEq, Prod.mk.injEq] at done <;>
      obtain ⟨rfl, rfl⟩ := done <;> rfl
  | arithmetic operation x y =>
    simp only [execute, finish, Except.ok.injEq, Prod.mk.injEq] at done
    obtain ⟨rfl, rfl⟩ := done
    obtain ⟨registers, stored⟩ :=
      machine.setResult_frame x (operation.eval (machine.register x) (machine.register y))
    rw [stored]
    exact .kept _ _ (by simp) (by simp) rfl
  | loadRegisters x =>
    generalize loaded : machine.loadedRegisters x = registers
    simp only [execute, finish, loaded, Except.ok.injEq, Prod.mk.injEq] at done
    obtain ⟨rfl, rfl⟩ := done
    exact .kept _ _ (by simp) (by simp) rfl
  | _ =>
    simp only [execute, finish, Except.ok.injEq, Prod.mk.injEq] at done
    obtain ⟨rfl, rfl⟩ := done
    exact .kept _ _ (by simp) (by simp) rfl

/-- The word of the next cycle, if that cycle succeeds. -/
def executed? (machine : Machine) : Option Word :=
  match machine.memory.word machine.pc, machine.cycle.2 with
  | .ok word, .ok _ => some word
  | _, _ => none

/-- The word that is executed in an action, if the action is a cycle that succeeds. -/
def executedIn? (machine : Machine) : Action → Option Word
  | .cycle => machine.executed?
  | _ => none

/-- The words of all cycles of a run that succeed, in their order. -/
def executedWords (machine : Machine) : List Action → List Word
  | [] => []
  | action :: later => (machine.executedIn? action).toList ++ (machine.act action).executedWords later

/-- What happens to the call stack while a word, or none, is executed. -/
inductive StackChange (machine : Machine) : Option Word → Machine → Prop
  | called (word : Word) (after : Machine) (calls : word.isCall = true)
      (room : machine.stack.depth < 16)
      (entries : after.stack.entries = (machine.pc + 2) :: machine.stack.entries) :
      StackChange machine (some word) after
  | returned (after : Machine) (entries : machine.stack.entries = after.pc :: after.stack.entries) :
      StackChange machine (some 0x00EE) after
  | kept (word? : Option Word) (after : Machine)
      (other : ∀ word, word? = some word → word.isCall = false ∧ word ≠ 0x00EE)
      (same : after.stack = machine.stack) :
      StackChange machine word? after

/-- A cycle changes the stack as the word it executes says. A cycle that fails leaves it. -/
theorem cycle_stack (machine : Machine) :
    StackChange machine machine.executed? machine.cycle.1 := by
  generalize ran : machine.cycle = result
  obtain ⟨after, answer⟩ := result
  unfold executed?
  rw [ran]
  cases cycle_end ran with
  | unreadable cause unread => exact .kept _ _ (by simp [unread]) rfl
  | failed word instruction fault read known refused => exact .kept _ _ (by simp [read]) rfl
  | passedOver word read unknown =>
    simp only [read]
    refine .kept _ _ ?_ rfl
    rintro _ ⟨⟩
    refine ⟨Bool.eq_false_iff.mpr fun calls => ?_, fun returns => ?_⟩
    · obtain ⟨nnn, known⟩ := Instruction.ofWord?_eq_call.mpr calls
      simp [known] at unknown
    · simp [Instruction.ofWord?_eq_ret.mpr returns] at unknown
  | executed word instruction after signal read known done =>
    simp only [read]
    generalize start : machine.fetched word = ready at done
    cases execute_stack done with
    | pushed nnn after room entries =>
      subst start
      exact .called word after (Instruction.ofWord?_eq_call.mp ⟨nnn, known⟩) room entries
    | popped after entries =>
      subst start
      obtain rfl := Instruction.ofWord?_eq_ret.mp known
      exact .returned after entries
    | kept instruction after noCall noReturn same =>
      subst start
      refine .kept _ _ ?_ same
      rintro _ ⟨⟩
      refine ⟨Bool.eq_false_iff.mpr fun calls => ?_, fun returns => ?_⟩
      · obtain ⟨nnn, knownToo⟩ := Instruction.ofWord?_eq_call.mpr calls
        exact noCall nnn (Option.some.inj (known.symm.trans knownToo))
      · exact noReturn
          (Option.some.inj (known.symm.trans (Instruction.ofWord?_eq_ret.mpr returns)))

/-- Only cycles change the stack while a machine runs by itself. -/
theorem act_stack (machine : Machine) {action : Action} (ordinary : action.isOrdinary = true) :
    StackChange machine (machine.executedIn? action) (machine.act action) := by
  cases action with
  | cycle => exact machine.cycle_stack
  | tick => exact .kept _ _ nofun rfl
  | setKey key isDown => exact .kept _ _ nofun rfl
  | setKeypad keypad => exact .kept _ _ nofun rfl
  | execute instruction => nomatch ordinary
  | step move => nomatch ordinary

variable {machine after : Machine}

/-- One step adds a call to the depth and takes a return off it. -/
theorem StackChange.depth {word? : Option Word} (change : StackChange machine word? after) :
    after.stack.depth + word?.toList.count 0x00EE =
      machine.stack.depth + word?.toList.countP Word.isCall := by
  have apart : Word.isCall 0x00EE = false := by decide
  cases change with
  | called word after calls room entries =>
    have differs : word ≠ 0x00EE := fun same => by simp [same, apart] at calls
    simp [CallStack.depth, entries, calls, differs]
  | returned after entries => simp [CallStack.depth, entries, apart]
  | kept word? after other same =>
    cases word? with
    | none => simp [same]
    | some word =>
      obtain ⟨noCall, noReturn⟩ := other word rfl
      simp [same, noCall, noReturn]

/-- The depth after a run is the depth before it, with the calls added and the returns taken
off. -/
theorem run_depth (machine : Machine) {actions : List Action}
    (ordinary : ∀ action ∈ actions, action.isOrdinary = true) :
    (machine.run actions).stack.depth + (machine.executedWords actions).count 0x00EE =
      machine.stack.depth + (machine.executedWords actions).countP Word.isCall := by
  induction actions generalizing machine with
  | nil => rfl
  | cons action later inductionHypothesis =>
    obtain ⟨first, rest⟩ := List.forall_mem_cons.mp ordinary
    have one := (machine.act_stack first).depth
    have more := inductionHypothesis (machine.act action) rest
    have ran : machine.run (action :: later) = (machine.act action).run later := rfl
    rw [ran, executedWords, List.count_append, List.countP_append]
    omega

/-- Addresses at the bottom of the stack stay there in a step that does not go below them. -/
theorem StackChange.suffix {word? : Option Word} {bottom : List Address}
    (change : StackChange machine word? after) (below : bottom <:+ machine.stack.entries)
    (deep : bottom.length ≤ after.stack.depth) : bottom <:+ after.stack.entries := by
  cases change with
  | called word after calls room entries =>
    rw [entries]
    exact below.trans (List.suffix_cons _ _)
  | returned after entries =>
    rw [entries] at below
    exact List.suffix_of_suffix_length_le below (List.suffix_cons _ _) deep
  | kept word? after other same => exact same ▸ below

/-- Addresses at the bottom of the stack stay there in a run that never goes below them. -/
theorem run_suffix {actions : List Action} {bottom : List Address}
    (ordinary : ∀ action ∈ actions, action.isOrdinary = true)
    (below : bottom <:+ machine.stack.entries)
    (deep : ∀ taken, taken <+: actions → bottom.length ≤ (machine.run taken).stack.depth) :
    bottom <:+ (machine.run actions).stack.entries := by
  induction actions generalizing machine with
  | nil => exact below
  | cons action later inductionHypothesis =>
    obtain ⟨first, rest⟩ := List.forall_mem_cons.mp ordinary
    have one : bottom <:+ (machine.act action).stack.entries :=
      (machine.act_stack first).suffix below (deep [action] ⟨later, rfl⟩)
    refine inductionHypothesis rest one ?_
    intro taken early
    exact deep (action :: taken) (List.cons_prefix_cons.mpr ⟨rfl, early⟩)

/-- A cycle executed a word iff it fetched it and succeeded. -/
theorem executed?_eq_some {word : Word} :
    machine.executed? = some word ↔
      machine.memory.word machine.pc = .ok word ∧ ∃ signal, machine.cycle.2 = .ok signal := by
  unfold executed?
  cases read : machine.memory.word machine.pc <;> cases answered : machine.cycle.2 <;> simp

/-- A call pushes the address past itself. -/
theorem StackChange.of_call {word : Word} (change : StackChange machine (some word) after)
    (calls : word.isCall = true) :
    machine.stack.depth < 16 ∧
      after.stack.entries = (machine.pc + 2) :: machine.stack.entries := by
  cases change with
  | called word after calls room entries => exact ⟨room, entries⟩
  | returned after entries => nomatch calls
  | kept word? after other same =>
    have noCall := (other word rfl).1
    simp [calls] at noCall

/-- A return goes to the latest address and pops it. -/
theorem StackChange.of_return {word : Word} (change : StackChange machine (some word) after)
    (returns : word = 0x00EE) : machine.stack.entries = after.pc :: after.stack.entries := by
  cases change with
  | called word after calls room entries =>
    subst returns
    nomatch calls
  | returned after entries => exact entries
  | kept word? after other same => exact absurd returns (other word rfl).2

/-- A cycle at a return with a call pending succeeds. -/
theorem executed_return (read : machine.memory.word machine.pc = .ok 0x00EE)
    (pending : 0 < machine.stack.depth) : machine.executed? = some 0x00EE := by
  refine executed?_eq_some.mpr ⟨read, ?_⟩
  cases answered : machine.cycle.2 with
  | ok signal => exact ⟨signal, rfl⟩
  | error fault =>
    rcases cycle_error.mp answered with ⟨last, _⟩ | ⟨_, vacant, _⟩ | ⟨⟨word, readToo, calls⟩, _⟩
    · exact absurd last (Memory.word_ok.mp read).1
    · omega
    · obtain rfl : 0x00EE = word := Except.ok.inj (read.symm.trans readToo)
      nomatch calls

/-- Calls and returns are well bracketed.

A cycle that executes a call is followed by any run of cycles, ticks and changes of keys that
does not go below the depth the call has left. A return at this depth then succeeds, continues
past the call and leaves the stack from before it. In every run of a new machine the depth of
the stack is the count of calls less the count of returns, and never above sixteen. -/
theorem calls_are_bracketed :
    (∀ (machine : Machine) (word : Word) (actions : List Action),
      machine.executed? = some word → word.isCall = true →
      (∀ action ∈ actions, action.isOrdinary = true) →
      (∀ taken, taken <+: actions →
        machine.stack.depth + 1 ≤ (machine.cycle.1.run taken).stack.depth) →
      ∀ inside, inside = machine.cycle.1.run actions →
        inside.memory.word inside.pc = .ok 0x00EE →
        inside.stack.depth = machine.stack.depth + 1 →
        machine.stack.depth < 16 ∧ inside.executed? = some 0x00EE ∧
          inside.cycle.1.pc.val = (machine.pc.val + 2) % 4096 ∧
          inside.cycle.1.stack = machine.stack) ∧
    (∀ (cartridge : Cartridge) (entropy : Entropy) (actions : List Action),
      (∀ action ∈ actions, action.isOrdinary = true) →
      ∀ words, words = (boot cartridge entropy).executedWords actions →
        ((boot cartridge entropy).run actions).stack.depth + words.count 0x00EE =
            words.countP Word.isCall ∧
          ((boot cartridge entropy).run actions).stack.depth ≤ 16) := by
  constructor
  · rintro machine word actions executed calls ordinary deep inside rfl read level
    obtain ⟨room, entered⟩ := StackChange.of_call (executed ▸ machine.cycle_stack) calls
    have kept : machine.cycle.1.stack.entries <:+ (machine.cycle.1.run actions).stack.entries := by
      refine run_suffix ordinary List.suffix_rfl ?_
      rw [entered]
      exact deep
    have same : machine.cycle.1.stack.entries = (machine.cycle.1.run actions).stack.entries := by
      refine kept.eq_of_length ?_
      rw [entered]
      exact level.symm
    have returned := executed_return read (by omega)
    have popped := StackChange.of_return (returned ▸ cycle_stack _) rfl
    rw [← same, entered] at popped
    obtain ⟨landed, left⟩ := List.cons.inj popped
    refine ⟨room, returned, ?_, CallStack.eq_of_entries left.symm⟩
    rw [← landed, Fin.val_add]
    rfl
  · rintro cartridge entropy actions ordinary words rfl
    have counted := (boot cartridge entropy).run_depth ordinary
    have started : (boot cartridge entropy).stack.depth = 0 := rfl
    rw [started, Nat.zero_add] at counted
    exact ⟨counted, ((boot cartridge entropy).run actions).stack.length_le⟩

/-- A machine at a call, with one place left on its stack. The subroutine begins with a call,
too, and then returns. -/
def almostFull : Machine where
  name := "nested"
  memory := Memory.writeAll ⟨Vector.replicate 4096 0⟩
    [(0x200, 0x22), (0x201, 0x06), (0x206, 0x22), (0x209, 0xEE)]
  registers := Vector.replicate 16 0
  index := 0
  pc := Fin.ofNat 4096 programStart
  opcode := 0
  stack := ⟨List.replicate 15 0x300, by decide⟩
  timers := .finished
  screen := .blank
  keypad := .released
  entropy := ⟨fun _ => 0, 0⟩

/-- The inner call is refused for want of room, and the return still goes back past the outer
one. -/
theorem returns_after_refused_call :
    let inside := almostFull.cycle.1.run [.cycle, .tick, .setKey 0x5 true]
    almostFull.cycle.1.cycle.2 = .error (.stack .full) ∧
      inside.executed? = some 0x00EE ∧ inside.cycle.1.pc.val = 0x202 ∧
      inside.cycle.1.stack = almostFull.stack := by
  intro inside
  -- The machine is run once for all that is needed about it.
  obtain ⟨outer, inner, full, back, level, deep⟩ :
      almostFull.executed? = some 0x2206 ∧
      (almostFull.cycle.1.pc ≠ 0xFFF ∧
        Word.ofBytes (almostFull.cycle.1.memory.read almostFull.cycle.1.pc)
          (almostFull.cycle.1.memory.read (almostFull.cycle.1.pc + 1)) = 0x2200) ∧
      almostFull.cycle.1.stack.depth = 16 ∧
      (inside.pc ≠ 0xFFF ∧
        Word.ofBytes (inside.memory.read inside.pc) (inside.memory.read (inside.pc + 1)) = 0x00EE) ∧
      inside.stack.depth = almostFull.stack.depth + 1 ∧
      ∀ taken ∈ List.inits [.cycle, .tick, .setKey 0x5 true],
        almostFull.stack.depth + 1 ≤ (almostFull.cycle.1.run taken).stack.depth := by
    decide +kernel
  have refused : almostFull.cycle.1.cycle.2 = .error (.stack .full) :=
    cycle_error.mpr (.inr (.inr ⟨⟨0x2200, Memory.word_ok.mpr inner, by decide⟩, full, rfl⟩))
  obtain ⟨_, returned, landed, left⟩ :=
    calls_are_bracketed.1 almostFull 0x2206 [.cycle, .tick, .setKey 0x5 true] outer (by decide)
      (by decide) (fun taken early => deep taken ((List.mem_inits _ _).mpr early)) inside rfl
      (Memory.word_ok.mpr back) level
  exact ⟨refused, returned, landed, left⟩

end Machine
end ChipEight
