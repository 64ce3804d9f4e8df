import ChipEight.Proofs.Machine.Calls
import ChipEight.Proofs.Machine.Execution

/-!
# Words stay aligned

Words are two bytes long and programs start at an even address. Every move keeps the counter even,
except a jump or a call to an odd address and an offset jump whose sum is odd. While none of these
is executed, the counter and all return addresses are even, whatever the program does to itself;
as soon as one is, the counter is odd.

An even counter is never at the last byte of the memory, so that a word can be fetched in every
cycle. Behind the last word the counter goes round to the first.
-/

namespace ChipEight

/-- A condition never makes a move a jump. -/
theorem Move.skipIf_ne_jump (condition : Bool) (target : Nat) : skipIf condition ≠ jump target := by
  cases condition <;> exact Move.noConfusion

/-- From an even place only a jump to an odd number ends at an odd place. The memory has an even
size, so that wrapping does not matter. -/
theorem Move.apply_even {move : Move} {pc : Address} (even : pc.val % 2 = 0) :
    (move.apply pc).val % 2 = 0 ↔ ∀ target, move = jump target → target % 2 = 0 := by
  have two : (2 : Address).val = 2 := rfl
  cases move with
  | next => exact iff_of_true even (by simp)
  | skip =>
    refine iff_of_true ?_ (by simp)
    simp only [apply, Fin.val_add]
    omega
  | jump target =>
    simp only [apply, Fin.val_ofNat, jump.injEq, forall_eq']
    omega
  | again =>
    refine iff_of_true ?_ (by simp)
    simp only [apply, Fin.sub_def]
    omega

namespace Machine

/-- The counter and all return addresses are even. -/
structure IsAligned (machine : Machine) : Prop where
  pc : machine.pc.val % 2 = 0
  returns : ∀ address ∈ machine.stack.entries, address.val % 2 = 0

/-- Whether an instruction jumps to an odd place: `1NNN` and `2NNN` with an odd address, `BNNN`
where `V0` and the address have an odd sum. -/
def jumpsOdd (machine : Machine) : Instruction → Bool
  | .jump nnn | .call nnn => nnn.val % 2 == 1
  | .jumpOffset nnn => ((machine.register 0).toNat + nnn.val) % 2 == 1
  | _ => false

/-- Whether the next cycle executes an instruction that jumps to an odd place. -/
def TakesOddJump (machine : Machine) : Prop :=
  ∃ word instruction, machine.executed? = some word ∧
    Instruction.ofWord? word = some instruction ∧ machine.jumpsOdd instruction = true

variable {machine after : Machine}

/-- The counter after an instruction is odd iff the instruction jumps to an odd place. A return
goes to a return address, which is even. -/
theorem execute_parity {instruction : Instruction} {signal : Signal} (aligned : machine.IsAligned)
    (done : machine.execute instruction = .ok (after, signal)) :
    after.pc.val % 2 = 0 ↔ machine.jumpsOdd instruction = false := by
  have moved : after.pc = (machine.moveOf instruction).apply machine.pc := by
    rw [(execute_done done).1, ← machine.changed_pc instruction]
    rfl
  cases instruction with
  | ret =>
    cases execute_stack done with
    | popped after entries =>
      have latest : after.pc ∈ machine.stack.entries := entries ▸ List.mem_cons_self
      simp [jumpsOdd, aligned.returns _ latest]
    | kept instruction after noCall noReturn same => exact absurd rfl noReturn
  | awaitKey x =>
    rw [moved, Move.apply_even aligned.pc]
    cases found : machine.keypad.firstDown? <;> simp [moveOf, jumpsOdd, found]
  | _ =>
    rw [moved, Move.apply_even aligned.pc]
    simp [moveOf, jumpsOdd, Move.skipIf_ne_jump]

/-- An instruction adds no return address but the counter. -/
theorem execute_returns {instruction : Instruction} {signal : Signal} (aligned : machine.IsAligned)
    (done : machine.execute instruction = .ok (after, signal)) :
    ∀ address ∈ after.stack.entries, address.val % 2 = 0 := by
  cases execute_stack done with
  | pushed nnn after room entries =>
    rw [entries]
    exact List.forall_mem_cons.mpr ⟨aligned.pc, aligned.returns⟩
  | popped after entries =>
    intro address member
    exact aligned.returns address (entries ▸ List.mem_cons_of_mem _ member)
  | kept instruction after noCall noReturn same => exact same ▸ aligned.returns

/-- A fetched word leaves the machine aligned. -/
theorem IsAligned.fetched (aligned : machine.IsAligned) (word : Word) :
    (machine.fetched word).IsAligned :=
  have even : (Move.skip.apply machine.pc).val % 2 = 0 := (Move.apply_even aligned.pc).mpr (by simp)
  ⟨even, aligned.returns⟩

/-- The instruction of a cycle that jumps to an odd place is the one under the counter. -/
theorem TakesOddJump.jumpsOdd {word : Word} {instruction : Instruction} (takes : machine.TakesOddJump)
    (read : machine.memory.word machine.pc = .ok word)
    (known : Instruction.ofWord? word = some instruction) : machine.jumpsOdd instruction = true := by
  obtain ⟨other, same, executed, knownToo, odd⟩ := takes
  obtain rfl : word = other := Except.ok.inj (read.symm.trans (executed?_eq_some.mp executed).1)
  obtain rfl : instruction = same := Option.some.inj (known.symm.trans knownToo)
  exact odd

/-- A cycle keeps a machine aligned iff it executes no jump to an odd place. -/
theorem cycle_aligned (aligned : machine.IsAligned) :
    machine.cycle.1.IsAligned ↔ ¬ machine.TakesOddJump := by
  generalize ran : machine.cycle = result
  obtain ⟨after, answer⟩ := result
  have executedNothing (refused : ∀ signal, machine.cycle.2 ≠ .ok signal) :
      ¬ machine.TakesOddJump := by
    rintro ⟨word, instruction, executed, _⟩
    obtain ⟨_, signal, answered⟩ := executed?_eq_some.mp executed
    exact refused signal answered
  cases cycle_end ran with
  | unreadable cause unread => exact iff_of_true aligned (executedNothing (by simp [ran]))
  | failed word instruction fault read known refused =>
    exact iff_of_true (aligned.fetched word) (executedNothing (by simp [ran]))
  | passedOver word read unknown =>
    refine iff_of_true (aligned.fetched word) ?_
    rintro ⟨other, instruction, executed, known, _⟩
    obtain rfl : word = other := Except.ok.inj (read.symm.trans (executed?_eq_some.mp executed).1)
    nomatch unknown.symm.trans known
  | executed word instruction after signal read known done =>
    have start := aligned.fetched word
    have taken : machine.TakesOddJump ↔ machine.jumpsOdd instruction = true :=
      ⟨fun takes => takes.jumpsOdd read known, fun odd =>
        ⟨word, instruction, executed?_eq_some.mpr ⟨read, signal, congrArg Prod.snd ran⟩, known, odd⟩⟩
    have even : after.pc.val % 2 = 0 ↔ (machine.fetched word).jumpsOdd instruction = false :=
      execute_parity start done
    have sameJump : (machine.fetched word).jumpsOdd instruction = machine.jumpsOdd instruction := rfl
    rw [sameJump] at even
    rw [taken, Bool.not_eq_true, ← even]
    exact ⟨IsAligned.pc, fun pc => ⟨pc, execute_returns start done⟩⟩

/-- What happens while a machine runs keeps it aligned iff it is no cycle that jumps to an odd
place. -/
theorem act_aligned {action : Action} (ordinary : action.isOrdinary = true)
    (aligned : machine.IsAligned) :
    (machine.act action).IsAligned ↔ (action = .cycle → ¬ machine.TakesOddJump) := by
  cases action with
  | cycle => exact (cycle_aligned aligned).trans ⟨fun straight _ => straight, fun straight => straight rfl⟩
  | tick | setKey _ _ | setKeypad _ => exact iff_of_true ⟨aligned.pc, aligned.returns⟩ nofun
  | execute _ | step _ => nomatch ordinary

/-- A run stays aligned all along iff none of its cycles jumps to an odd place. -/
theorem run_aligned {actions : List Action}
    (ordinary : ∀ action ∈ actions, action.isOrdinary = true) (aligned : machine.IsAligned) :
    (∀ taken, taken <+: actions → (machine.run taken).IsAligned) ↔
      ∀ taken, taken ++ [.cycle] <+: actions → ¬ (machine.run taken).TakesOddJump := by
  constructor
  · intro along taken early
    have before : (machine.run taken).IsAligned :=
      along taken ((List.prefix_append taken _).trans early)
    have afterwards : (machine.run (taken ++ [.cycle])).IsAligned := along _ early
    rw [run, List.foldl_append] at afterwards
    exact (cycle_aligned before).mp afterwards
  · intro straight taken early
    -- What was taken so far grows by one action at a time; the action after it is the next one.
    induction taken using List.reverseRecOn with
    | nil => exact aligned
    | append_singleton taken action inductionHypothesis =>
      have before := inductionHypothesis ((List.prefix_append taken _).trans early)
      have member : action ∈ actions := early.subset (by simp)
      have step := (act_aligned (ordinary action member) before).mpr (by
        rintro rfl
        exact straight taken early)
      rw [run, List.foldl_append]
      exact step

/-- A machine that is aligned can fetch. -/
theorem IsAligned.fetches (aligned : machine.IsAligned) (cause : WordError) :
    machine.cycle.2 ≠ .error (.word cause) := by
  intro failed
  rcases cycle_error.mp failed with ⟨last, _⟩ | ⟨_, _, other⟩ | ⟨_, _, other⟩
  · have even := aligned.pc
    rw [last] at even
    nomatch even
  · nomatch other
  · nomatch other

/-- From the last word of the memory the counter goes round to the first. -/
theorem fetched_last (last : machine.pc = 0xFFE) :
    ∃ word, machine.memory.word machine.pc = .ok word ∧ (machine.fetched word).pc = 0 := by
  refine ⟨_, Memory.word_ok.mpr ⟨?_, rfl⟩, ?_⟩
  · rw [last]
    decide
  · change machine.pc + 2 = 0
    rw [last]
    decide

/-- A machine that was just built is aligned. -/
theorem boot_aligned (cartridge : Cartridge) (entropy : Entropy) :
    (boot cartridge entropy).IsAligned where
  pc := by
    change (Fin.ofNat 4096 programStart).val % 2 = 0
    decide
  returns := by
    intro address member
    nomatch member

/-- How long words stay aligned.

In a run of a new machine the counter and all return addresses are even all along iff no cycle of
the run executes a jump or a call to an odd address or an offset jump to an odd sum. While this is
so, no cycle fails for want of a word, and a counter at the last word goes round to the first
byte. -/
theorem aligned_until_odd_jump (cartridge : Cartridge) (entropy : Entropy) (actions : List Action)
    (ordinary : ∀ action ∈ actions, action.isOrdinary = true) :
    ((∀ taken, taken <+: actions → ((boot cartridge entropy).run taken).IsAligned) ↔
      ∀ taken, taken ++ [.cycle] <+: actions → ¬ ((boot cartridge entropy).run taken).TakesOddJump) ∧
    ((∀ taken, taken ++ [.cycle] <+: actions →
        ¬ ((boot cartridge entropy).run taken).TakesOddJump) →
      ∀ taken, taken <+: actions →
        (∀ cause, ((boot cartridge entropy).run taken).cycle.2 ≠ .error (.word cause)) ∧
        (((boot cartridge entropy).run taken).pc = 0xFFE →
          ∃ word, ((boot cartridge entropy).run taken).memory.word
              ((boot cartridge entropy).run taken).pc = .ok word ∧
            (((boot cartridge entropy).run taken).fetched word).pc = 0)) := by
  have exact_condition := run_aligned ordinary (boot_aligned cartridge entropy)
  refine ⟨exact_condition, ?_⟩
  intro straight taken early
  exact ⟨(exact_condition.mpr straight taken early).fetches, fetched_last⟩

/-- A program of one jump, to the last word of the memory. -/
def toLastWord : Cartridge := ⟨"round", #[0x1F, 0xFE], by decide⟩

/-- A jump leaves the machine at its address. -/
theorem cycle_of_jump {word : Word} {nnn : Address}
    (read : machine.memory.word machine.pc = .ok word)
    (known : Instruction.ofWord? word = some (.jump nnn)) :
    machine.cycle.1 = { machine with opcode := word, pc := nnn } := by
  rw [cycle_of_done read known rfl]
  exact congrArg (fun pc => { machine with opcode := word, pc }) (Fin.ofNat_val_eq_self nnn)

/-- The counter goes to the last word, round to the first and stays even. -/
theorem aligned_round_the_end :
    ((boot toLastWord ⟨fun _ => 0, 0⟩).run [.cycle, .tick, .cycle]).IsAligned ∧
      ∀ cause, ((boot toLastWord ⟨fun _ => 0, 0⟩).run [.cycle, .tick, .cycle]).cycle.2 ≠
        .error (.word cause) := by
  have ordinary : ∀ action ∈ [Action.cycle, .tick, .cycle], action.isOrdinary = true := by decide
  have jump : Instruction.ofWord? 0x1FFE = some (.jump 0xFFE) := by decide
  have routine : Instruction.ofWord? 0 = some (.system 0) := by decide
  have first : (boot toLastWord ⟨fun _ => 0, 0⟩).memory.word 512 = .ok 0x1FFE :=
    (Memory.word_load (by decide)).trans (by decide)
  have last : (boot toLastWord ⟨fun _ => 0, 0⟩).memory.word 0xFFE = .ok 0 :=
    (Memory.word_load (by decide)).trans (by decide)
  have atStart : ¬ (boot toLastWord ⟨fun _ => 0, 0⟩).TakesOddJump :=
    fun takes => absurd (takes.jumpsOdd first jump) (by decide)
  have unrolled (machine : Machine) : machine.run [.cycle, .tick] = machine.cycle.1.tick := rfl
  have atEnd : ¬ ((boot toLastWord ⟨fun _ => 0, 0⟩).run [.cycle, .tick]).TakesOddJump := by
    rw [unrolled, cycle_of_jump first jump]
    generalize boot toLastWord ⟨fun _ => 0, 0⟩ = machine at last
    exact fun takes => Bool.false_ne_true (takes.jumpsOdd last routine)
  have straight : ∀ taken, taken ++ [.cycle] <+: [Action.cycle, .tick, .cycle] →
      ¬ ((boot toLastWord ⟨fun _ => 0, 0⟩).run taken).TakesOddJump := by
    intro taken early
    match taken with
    | [] => exact atStart
    | [_] => simp at early
    | [_, _] =>
      obtain ⟨rfl, rfl⟩ : _ = Action.cycle ∧ _ = Action.tick := by simpa using early
      exact atEnd
    | _ :: _ :: _ :: _ => simp at early
  have along := aligned_until_odd_jump toLastWord ⟨fun _ => 0, 0⟩ _ ordinary
  exact ⟨along.1.mpr straight _ List.prefix_rfl, (along.2 straight _ List.prefix_rfl).1⟩

end Machine
end ChipEight
