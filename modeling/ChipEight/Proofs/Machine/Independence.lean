import ChipEight.Proofs.Machine.Calls

/-!
# Actions that can change places

While a machine runs its cycles, a clock ticks its timers and somebody else moves its keys. Few
instructions take notice: three use the timers and three ask for keys. Whatever the others do,
they do it in the same way before and after a tick or a change of keys, and so does a cycle that
fails or passes a word over.

So a tick may be moved past a cycle that does not use the timers, a change of keys past a cycle
that does not ask for keys, and ticks and changes of keys past each other. Sequences of actions
that differ by such moves lead to the same machine, and their cycles give the same answers.
-/

namespace ChipEight

/-- Whether an instruction reads or sets a timer: `FX07`, `FX15` and `FX18`. -/
def Instruction.usesTimers : Instruction → Bool
  | getDelay _ | setDelay _ | setSound _ => true
  | _ => false

/-- Whether an instruction asks for keys: `EX9E`, `EXA1` and `FX0A`. -/
def Instruction.readsKeys : Instruction → Bool
  | skipDown _ | skipUp _ | awaitKey _ => true
  | _ => false

namespace Machine

/-- The instruction at the counter, if there is one. -/
def next? (machine : Machine) : Option Instruction :=
  match machine.memory.word machine.pc with
  | .ok word => Instruction.ofWord? word
  | .error _ => none

/-- What others do to a machine while it runs: the timers and the keys are changed, each by
themselves. -/
def outside (machine : Machine) (clock : Timers → Timers) (keys : Keypad → Keypad) : Machine :=
  { machine with timers := clock machine.timers, keypad := keys machine.keypad }

variable {machine : Machine} {clock : Timers → Timers} {keys : Keypad → Keypad}

/-- An instruction does the same before and after a change from outside, unless it is about what
is changed. -/
theorem execute_outside {instruction : Instruction}
    (unused : instruction.usesTimers = true → clock = id)
    (unread : instruction.readsKeys = true → keys = id) :
    (machine.outside clock keys).execute instruction =
      (machine.execute instruction).map fun result => (result.1.outside clock keys, result.2) := by
  cases instruction with
  | getDelay x | setDelay x | setSound x =>
    obtain rfl := unused rfl
    rfl
  | skipDown x | skipUp x =>
    obtain rfl := unread rfl
    rfl
  | awaitKey x =>
    obtain rfl := unread rfl
    have same : (machine.outside clock id).keypad = machine.keypad := rfl
    simp only [execute, same]
    cases machine.keypad.firstDown? <;> rfl
  | ret =>
    have same : (machine.outside clock keys).stack = machine.stack := rfl
    simp only [execute, same]
    cases machine.stack.pop? <;> rfl
  | call nnn =>
    have same : (machine.outside clock keys).stack.push? (machine.outside clock keys).pc =
      machine.stack.push? machine.pc := rfl
    simp only [execute, same]
    cases machine.stack.push? machine.pc <;> rfl
  | arithmetic operation x y => cases operation <;> rfl
  | _ => rfl

/-- A cycle does the same before and after a change from outside, unless its instruction is about
what is changed. It fails in the same way, too. -/
theorem cycle_outside
    (unused : ∀ instruction, machine.next? = some instruction →
      instruction.usesTimers = true → clock = id)
    (unread : ∀ instruction, machine.next? = some instruction →
      instruction.readsKeys = true → keys = id) :
    (machine.outside clock keys).cycle =
      (machine.cycle.1.outside clock keys, machine.cycle.2) := by
  have fetches : (machine.outside clock keys).memory.word (machine.outside clock keys).pc =
      machine.memory.word machine.pc := rfl
  unfold next? at unused unread
  unfold cycle
  rw [fetches]
  cases read : machine.memory.word machine.pc with
  | error cause => rfl
  | ok word =>
    have passed : (machine.outside clock keys).fetched word =
        (machine.fetched word).outside clock keys := rfl
    simp only [read] at unused unread
    simp only [passed]
    cases known : Instruction.ofWord? word with
    | none => rfl
    | some instruction =>
      simp only [execute_outside (unused instruction known) (unread instruction known)]
      cases (machine.fetched word).execute instruction <;> rfl

/-- The answer given in an action, if it is a cycle. -/
def answerIn? (machine : Machine) : Action → Option (Except Fault Signal)
  | .cycle => some machine.cycle.2
  | _ => none

/-- The answers of all cycles of a run, in their order. -/
def answersIn (machine : Machine) : List Action → List (Except Fault Signal)
  | [] => []
  | action :: later => (machine.answerIn? action).toList ++ (machine.act action).answersIn later

end Machine

/-- The changes of keys. -/
def Action.isKeyWrite : Action → Bool
  | .setKey _ _ | .setKeypad _ => true
  | _ => false

/-- A change of keys is a change from outside that leaves the timers, and answers nothing. -/
theorem Action.keys_of_isKeyWrite {write : Action} (isWrite : write.isKeyWrite = true) :
    ∃ keys, ∀ machine : Machine,
      machine.act write = machine.outside id keys ∧ machine.answerIn? write = none := by
  cases write with
  | setKey key isDown => exact ⟨fun keypad => keypad.set key isDown, fun _ => ⟨rfl, rfl⟩⟩
  | setKeypad keypad => exact ⟨fun _ => keypad, fun _ => ⟨rfl, rfl⟩⟩
  | _ => nomatch isWrite

namespace Machine

/-- Two kinds of actions that do not meddle with each other: a tick with a cycle that does not use
the timers, a change of keys with a cycle that does not ask for keys, and a tick with a change of
keys. -/
inductive Apart (machine : Machine) : Action → Action → Prop
  | tickCycle (unused : ∀ instruction, machine.next? = some instruction →
      instruction.usesTimers = false) : Apart machine .tick .cycle
  | keysCycle {write : Action} (isWrite : write.isKeyWrite = true)
      (unread : ∀ instruction, machine.next? = some instruction → instruction.readsKeys = false) :
      Apart machine write .cycle
  | tickKeys {write : Action} (isWrite : write.isKeyWrite = true) : Apart machine .tick write

/-- Sequences of actions that differ by moving actions past each other that do not meddle. Whether
two actions meddle is asked of the machine that comes to them. -/
inductive Rearranged : Machine → List Action → List Action → Prop
  | refl (machine : Machine) (actions : List Action) : Rearranged machine actions actions
  | moved (machine : Machine) {first second : Action} (apart : machine.Apart first second)
      (later : List Action) : Rearranged machine (first :: second :: later) (second :: first :: later)
  | after (machine : Machine) (action : Action) {later other : List Action}
      (rest : Rearranged (machine.act action) later other) :
      Rearranged machine (action :: later) (action :: other)
  | symm {machine : Machine} {actions other : List Action}
      (back : Rearranged machine actions other) : Rearranged machine other actions
  | trans {machine : Machine} {actions middle other : List Action}
      (first : Rearranged machine actions middle) (second : Rearranged machine middle other) :
      Rearranged machine actions other

variable {machine : Machine}

/-- An action that comes from outside and whose change the next instruction is not about can be
taken before the cycle or after it. -/
theorem commutes_with_cycle {action : Action} {clock : Timers → Timers} {keys : Keypad → Keypad}
    (changes : ∀ machine : Machine, machine.act action = machine.outside clock keys)
    (unused : ∀ instruction, machine.next? = some instruction →
      instruction.usesTimers = true → clock = id)
    (unread : ∀ instruction, machine.next? = some instruction →
      instruction.readsKeys = true → keys = id) :
    (machine.act action).act .cycle = (machine.act .cycle).act action ∧
      (machine.act action).answerIn? .cycle = machine.answerIn? .cycle := by
  have ran := cycle_outside unused unread
  constructor
  · calc
      (machine.act action).act .cycle = (machine.outside clock keys).cycle.1 := by rw [changes]; rfl
      _ = machine.cycle.1.outside clock keys := by rw [ran]
      _ = (machine.act .cycle).act action := (changes _).symm
  · rw [changes, answerIn?, ran]
    rfl

/-- Two actions that do not meddle can be taken in both orders. The machine after both is the
same, the second answers the same, and the first never answers anything. -/
theorem Apart.commutes {first second : Action} (apart : machine.Apart first second) :
    (machine.act first).act second = (machine.act second).act first ∧
      (machine.act first).answerIn? second = machine.answerIn? second ∧
      ∀ machine : Machine, machine.answerIn? first = none := by
  cases apart with
  | tickCycle unused =>
    have ticks (machine : Machine) : machine.act .tick = machine.outside Timers.tick id := rfl
    obtain ⟨same, answer⟩ := commutes_with_cycle ticks
      (fun instruction met uses => by simp [unused instruction met] at uses) (fun _ _ _ => rfl)
    exact ⟨same, answer, fun _ => rfl⟩
  | keysCycle isWrite unread =>
    obtain ⟨keys, writes⟩ := Action.keys_of_isKeyWrite isWrite
    obtain ⟨same, answer⟩ := commutes_with_cycle (fun machine => (writes machine).1)
      (fun _ _ _ => rfl) (fun instruction met reads => by simp [unread instruction met] at reads)
    exact ⟨same, answer, fun machine => (writes machine).2⟩
  | tickKeys isWrite =>
    obtain ⟨keys, writes⟩ := Action.keys_of_isKeyWrite isWrite
    refine ⟨?_, (writes _).2.trans (writes _).2.symm, fun _ => rfl⟩
    rw [(writes _).1, (writes _).1]
    rfl

/-- Moving actions past each other that do not meddle changes neither the machine that is reached
nor the answer of any cycle.

Proof: one move is the lemma above; equality is kept in front of further actions, backwards and
along several moves. -/
theorem rearranged_runs_agree {machine : Machine} {actions other : List Action}
    (rearranged : Rearranged machine actions other) :
    machine.run actions = machine.run other ∧ machine.answersIn actions = machine.answersIn other := by
  induction rearranged with
  | refl machine actions => exact ⟨rfl, rfl⟩
  | moved machine apart later =>
    obtain ⟨same, answer, silent⟩ := apart.commutes
    refine ⟨congrArg (fun machine => machine.run later) same, ?_⟩
    simp only [answersIn, same, answer, silent, Option.toList_none, List.nil_append]
  | after machine action rest inductionHypothesis =>
    obtain ⟨same, answers⟩ := inductionHypothesis
    refine ⟨same, ?_⟩
    simp only [answersIn, answers]
  | symm back inductionHypothesis => exact ⟨inductionHypothesis.1.symm, inductionHypothesis.2.symm⟩
  | trans first second firstHypothesis secondHypothesis =>
    exact ⟨firstHypothesis.1.trans secondHypothesis.1, firstHypothesis.2.trans secondHypothesis.2⟩

/-- A machine that is about to load a register and then to set the delay timer from it. -/
def beforeDelay : Machine where
  name := "delay"
  memory := Memory.writeAll ⟨Vector.replicate 4096 0⟩
    [(0x200, 0x6A), (0x201, 0x07), (0x202, 0xFA), (0x203, 0x15)]
  registers := Vector.replicate 16 0
  index := 0
  pc := Fin.ofNat 4096 programStart
  opcode := 0
  stack := .empty
  timers := ⟨.ofByte 3, .ofByte 9⟩
  screen := .blank
  keypad := .released
  entropy := ⟨fun _ => 0, 0⟩

/-- A tick is moved past the first cycle and no further, a key past both. -/
theorem tick_and_key_move :
    Rearranged beforeDelay [.tick, .setKey 0x5 true, .cycle, .cycle]
        [.cycle, .tick, .cycle, .setKey 0x5 true] ∧
      beforeDelay.run [.tick, .setKey 0x5 true, .cycle, .cycle] =
        beforeDelay.run [.cycle, .tick, .cycle, .setKey 0x5 true] ∧
      beforeDelay.answersIn [.tick, .setKey 0x5 true, .cycle, .cycle] =
        beforeDelay.answersIn [.cycle, .tick, .cycle, .setKey 0x5 true] := by
  -- Both words are read once; a tick leaves the counter and the memory alone.
  have loads : beforeDelay.next? = some (.load 0xA 0x07) := by decide +kernel
  have ticked : (beforeDelay.act .tick).next? = some (.load 0xA 0x07) := by decide +kernel
  have sets : ((beforeDelay.act .cycle).act .tick).next? = some (.setDelay 0xA) := by decide +kernel
  have key : Action.isKeyWrite (.setKey 0x5 true) = true := rfl
  generalize beforeDelay = machine at loads ticked sets ⊢
  have moves : Rearranged machine [.tick, .setKey 0x5 true, .cycle, .cycle]
      [.cycle, .tick, .cycle, .setKey 0x5 true] := by
    refine .trans (.after _ _ (.moved _ (.keysCycle key ?_) _)) ?_
    · intro instruction met
      obtain rfl : .load 0xA 0x07 = instruction := Option.some.inj (ticked.symm.trans met)
      rfl
    refine .trans (.moved _ (.tickCycle ?_) _) ?_
    · intro instruction met
      obtain rfl : .load 0xA 0x07 = instruction := Option.some.inj (loads.symm.trans met)
      rfl
    refine .after _ _ (.after _ _ (.moved _ (.keysCycle key ?_) _))
    intro instruction met
    obtain rfl : .setDelay 0xA = instruction := Option.some.inj (sets.symm.trans met)
    rfl
  exact ⟨moves, rearranged_runs_agree moves⟩

end Machine
end ChipEight
