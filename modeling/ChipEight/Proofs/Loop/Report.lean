import ChipEight.Proofs.Loop.CpuFold
import ChipEight.Proofs.Machine.Failure

/-!
# How the cpu loop reports a failure

A cycle reports the word it met with the counter it found, whether it executes the word or passes
over it. The report of a failure is written by the loop, after the cycle, with the counter the cycle
left. A cycle that cannot fetch leaves its counter, so that its report agrees with the others; a
misused call stack is noticed behind the fetch, and then the report of the failure names the place
of the following word.
-/

namespace ChipEight

/-- The place of the word that a notice is about, if the notice tells it. -/
def Notice.place? : Notice → Option Address
  | .passedOver address _ | .executing address _ _ | .stopped address _ => some address
  | _ => none

/-- How far behind its own place a failed instruction leaves the counter. -/
def Fault.overshoot : Fault → Address
  | .word _ => 0
  | .stack _ => 2

namespace Machine

variable {machine : Machine} {notice : Notice}

/-- A return tells the address that it takes from the stack, if there is one. -/
theorem executeNotices_ret :
    machine.executeNotices .ret =
      (machine.stack.pop?.map fun popped => .returning popped.1).toList := by
  -- the case over all instructions has too many equations to rewrite with them
  delta executeNotices
  dsimp only
  cases machine.stack.pop? <;> rfl

/-- A call tells where it goes and from where, if the stack takes the address. -/
theorem executeNotices_call {nnn : Address} :
    machine.executeNotices (.call nnn) =
      ((machine.stack.push? machine.pc).map fun _ => .calling nnn machine.pc).toList := by
  delta executeNotices
  dsimp only
  cases machine.stack.push? machine.pc <;> rfl

/-- What an instruction can report. -/
theorem executeNotices_kinds {instruction : Instruction}
    (told : notice ∈ machine.executeNotices instruction) :
    (∃ address, notice = .ignoredRoutine address) ∨ (∃ address, notice = .returning address) ∨
      (∃ target address, notice = .calling target address) ∨
      ∃ byte address, notice = .ignoredWrite byte address := by
  cases instruction with
  | system nnn => exact .inl ⟨nnn, List.mem_singleton.mp told⟩
  | ret =>
    rw [executeNotices_ret, Option.mem_toList] at told
    obtain ⟨popped, _, rfl⟩ := Option.map_eq_some_iff.mp told
    exact .inr (.inl ⟨_, rfl⟩)
  | call nnn =>
    rw [executeNotices_call, Option.mem_toList] at told
    obtain ⟨pushed, _, rfl⟩ := Option.map_eq_some_iff.mp told
    exact .inr (.inr (.inl ⟨_, _, rfl⟩))
  | _ =>
    obtain ⟨store, _, ignored⟩ := List.mem_filterMap.mp told
    obtain ⟨_, reported⟩ := Option.ite_none_right_eq_some.mp ignored
    exact .inr (.inr (.inr ⟨_, _, (Option.some.inj reported).symm⟩))

/-- What a cycle can report: the word that it met at its counter, and what an instruction reports. -/
theorem cycleNotices_kinds (told : notice ∈ machine.cycleNotices) :
    (∃ word, notice = .passedOver machine.pc word) ∨
      (∃ word instruction, notice = .executing machine.pc word instruction) ∨
      ∃ word instruction, notice ∈ (machine.fetched word).executeNotices instruction := by
  unfold cycleNotices at told
  split at told
  case h_1 => simp at told
  case h_2 word _ =>
    split at told
    case h_1 => exact .inl ⟨word, List.mem_singleton.mp told⟩
    case h_2 instruction _ =>
      rcases List.mem_cons.mp told with same | told
      · exact .inr (.inl ⟨word, instruction, same⟩)
      · exact .inr (.inr ⟨word, instruction, told⟩)

/-- A cycle tells one place, that of the word it meets, and reports no failure. -/
theorem cycleNotices_of_mem (told : notice ∈ machine.cycleNotices) :
    (∀ address, notice.place? = some address → address = machine.pc) ∧
      ∀ address fault, notice ≠ .stopped address fault := by
  rcases cycleNotices_kinds told with ⟨word, rfl⟩ | ⟨word, instruction, rfl⟩ | ⟨word, instruction, told⟩
  · exact ⟨fun address same => (Option.some.inj same).symm, nofun⟩
  · exact ⟨fun address same => (Option.some.inj same).symm, nofun⟩
  · -- no notice of an instruction tells a place
    rcases executeNotices_kinds told with ⟨_, rfl⟩ | ⟨_, rfl⟩ | ⟨_, _, rfl⟩ | ⟨_, _, rfl⟩ <;>
      exact ⟨nofun, nofun⟩

/-- The counter that a failed cycle leaves. -/
theorem pc_of_cycle_error {fault : Fault} (failed : machine.cycle.2 = .error fault) :
    machine.cycle.1.pc = machine.pc + fault.overshoot := by
  generalize ran : machine.cycle = result at failed ⊢
  obtain ⟨after, answer⟩ := result
  obtain rfl : answer = .error fault := failed
  cases cycle_end ran with
  | unreadable cause unread => exact (Fin.add_zero _).symm
  | failed word instruction fault read known refused =>
    rcases execute_error.mp refused with ⟨_, _, rfl⟩ | ⟨_, _, rfl⟩ <;> rfl

end Machine

namespace CpuLoop

variable {loop : CpuLoop} {fired : Fired} {console : Console}

/-- A pass that fails reports what its cycle reports, and then the failure. -/
theorem notices_of_failed {fault : Fault} (failed : (loop.act fired console).fault = some fault) :
    (console.machine.ticked fired).cycle.2 = .error fault ∧
      (loop.act fired console).notices = (console.machine.ticked fired).cycleNotices ++
        [.stopped ((console.machine.ticked fired).pc + fault.overshoot) fault] := by
  have answered : console.machine.answer? fired = some (.error fault) :=
    failure?_eq_some.mp ((act_effect loop fired console).fault.symm.trans failed)
  obtain ⟨due, error⟩ : fired.cpu = true ∧ (console.machine.ticked fired).cycle.2 = .error fault := by
    simpa [Machine.answer?] using answered
  refine ⟨error, ?_⟩
  rw [← Machine.pc_of_cycle_error error, act, ticked_console]
  simp [due, error, Console.cycle, Console.raiseStop]

/-- A pass that does not fail reports no failure. -/
theorem notices_of_passed (passed : (loop.act fired console).fault = none) (address : Address)
    (fault : Fault) : .stopped address fault ∉ (loop.act fired console).notices := by
  intro told
  rw [act, ticked_console] at passed told
  cases due : fired.cpu with
  | false => simp [due] at told
  | true =>
    cases answered : (console.machine.ticked fired).cycle.2 with
    | error fault => simp [due, answered, Console.cycle] at passed
    | ok signal =>
      simp only [due, answered, Console.cycle, if_true, List.mem_append] at told
      rcases told with told | told
      · exact (Machine.cycleNotices_of_mem told).2 address fault rfl
      · split at told <;> simp at told

end CpuLoop

namespace CpuRun

variable {paces : Paces} {clock : Clock} {stopSeen : Nat → Bool} {console : Console} {run : CpuRun}

/-- No failure was reported so far. -/
def IsSilent (run : CpuRun) : Prop :=
  ∀ address fault, .stopped address fault ∉ run.journal.toList

/-- What a pass reports is written behind all that was reported before. -/
theorem journal_turn (clock : Clock) (run : CpuRun) :
    (run.turn clock).journal.toList =
      run.journal.toList ++ (run.loop.turn (clock run.readings) run.console).notices := by
  simp [turn]

/-- A pass that fails writes the report of its failure last. -/
theorem journal_of_failed {fault : Fault} (failed : (run.turn clock).fault = some fault) :
    (run.console.machine.ticked (run.nextFired clock)).cycle.2 = .error fault ∧
      (run.turn clock).journal.toList = run.journal.toList ++
        (run.console.machine.ticked (run.nextFired clock)).cycleNotices ++
        [.stopped ((run.console.machine.ticked (run.nextFired clock)).pc + fault.overshoot) fault] := by
  obtain ⟨error, notices⟩ := CpuLoop.notices_of_failed failed
  refine ⟨error, ?_⟩
  rw [journal_turn, List.append_assoc]
  exact congrArg (run.journal.toList ++ ·) notices

/-- A run that ends with a fault ends with a pass that fails, and no pass before has reported a
failure. -/
theorem Running.last_pass {bound : Nat} {last : CpuRun} {fault : Fault}
    (running : run.Running paces clock stopSeen console) (silent : run.IsSilent)
    (finished : run.finish? clock stopSeen bound = some last) (failed : last.fault = some fault) :
    ∃ previous : CpuRun, previous.Running paces clock stopSeen console ∧ previous.IsSilent ∧
      last = previous.turn clock := by
  have kept (run : CpuRun) (silent : run.IsSilent) (passed : (run.turn clock).fault = none) :
      (run.turn clock).IsSilent := by
    intro address cause told
    rw [journal_turn, List.mem_append] at told
    rcases told with earlier | now
    · exact silent address cause earlier
    · exact CpuLoop.notices_of_passed passed address cause now
  obtain ⟨moment, running, silent, ⟨-, rfl⟩ | ⟨-, -, rfl⟩⟩ :=
    running.last_moment IsSilent silent (fun run _ => kept run) finished
  · -- a check leaves no fault
    have passed : moment.fault = none := running.fault
    simp [passed] at failed
  · exact ⟨moment, running, silent, rfl⟩

/-- What a run reports of its failure.

The last notice of a run that failed reports the failure, and no other notice does. It names the
counter behind the failed instruction where a call or a return was refused, and the place of the
instruction itself only where no word could be fetched. The notices of cycles, also those of the
failed cycle, always name the place of the word that the cycle met. -/
theorem reported_address_of_failure (paces : Paces) (clock : Clock) (stopSeen : Nat → Bool)
    (console : Console) (bound : Nat) (last : CpuRun) (fault : Fault)
    (finished : (start paces clock console).finish? clock stopSeen bound = some last)
    (failed : last.fault = some fault) :
    (∃ (earlier : List Fired) (fired : Fired) (machine : Machine) (before : List Notice),
      firings paces clock last.polls = earlier ++ [fired] ∧
      machine = (console.machine.polls earlier).ticked fired ∧
      machine.cycle.2 = .error fault ∧
      last.journal.toList =
        before ++ machine.cycleNotices ++ [.stopped (machine.pc + fault.overshoot) fault] ∧
      ∀ address cause, .stopped address cause ∉ before ++ machine.cycleNotices) ∧
    ∀ (machine : Machine), ∀ notice ∈ machine.cycleNotices, ∀ address,
      notice.place? = some address → address = machine.pc := by
  refine ⟨?_, fun machine notice told => (Machine.cycleNotices_of_mem told).1⟩
  have silent : (start paces clock console).IsSilent := fun _ _ => by simp [start]
  obtain ⟨previous, running, quiet, rfl⟩ :=
    (start_running paces clock stopSeen console).last_pass silent finished failed
  obtain ⟨error, journal⟩ := journal_of_failed failed
  refine ⟨_, previous.nextFired clock, _, previous.journal.toList, running.firings_next, rfl, ?_, ?_,
    ?_⟩
  · rwa [← running.machine]
  · rwa [← running.machine]
  · intro address cause told
    rcases List.mem_append.mp told with earlier | now
    · exact quiet address cause earlier
    · exact (Machine.cycleNotices_of_mem now).2 address cause rfl

/-- A console with a program that returns although nothing was called. -/
def strayReturn : Console :=
  ⟨Machine.boot ⟨"stray return", #[0x00, 0xEE], by decide⟩ ⟨fun _ => 0, 0⟩, false, false⟩

/-- A clock that finds a cycle due at every poll of the usual pace. -/
def cycleClock : Clock := fun reading => 2000000 * reading

/-- The first pass of the program fails. -/
theorem strayReturn_fails :
    ((start {} cycleClock strayReturn).turn cycleClock).fault = some (.stack .empty) := by
  have fired : (start {} cycleClock strayReturn).nextFired cycleClock = ⟨true, false⟩ := by decide
  have read : strayReturn.machine.memory.word strayReturn.machine.pc = .ok 0x00EE :=
    (Memory.word_load (by decide)).trans (congrArg Except.ok (by decide))
  have error : strayReturn.machine.cycle.2 = .error (.stack .empty) :=
    Machine.cycle_error.mpr (.inr (.inl ⟨read, rfl, rfl⟩))
  rw [turn_fault, fired]
  exact congrArg (fun answer => failure? (some answer)) error

/-- So the run ends with the first pass. -/
theorem strayReturn_finishes :
    (start {} cycleClock strayReturn).finish? cycleClock (fun _ => false) 1 =
      some ((start {} cycleClock strayReturn).turn cycleClock) := by
  rw [finish_succ, strayReturn_fails]
  rfl

/-- The program returns at `0x200`, and the failure is reported at `0x202`. -/
theorem stray_return_is_reported_behind :
    let last := (start {} cycleClock strayReturn).turn cycleClock
    (start {} cycleClock strayReturn).finish? cycleClock (fun _ => false) 1 = some last ∧
      last.fault = some (.stack .empty) ∧ strayReturn.machine.pc = 0x200 ∧
      .stopped 0x202 (.stack .empty) ∈ last.journal.toList ∧
      (Notice.stopped 0x202 (.stack .empty)).text =
        "The chip stopped at 0x0202: Invalid stack state 'Stack is empty!'." := by
  intro last
  obtain ⟨⟨earlier, fired, machine, before, firings, rfl, error, journal, -⟩, -⟩ :=
    reported_address_of_failure {} cycleClock (fun _ => false) strayReturn 1 last (.stack .empty)
      strayReturn_finishes strayReturn_fails
  have single : [] ++ [(⟨true, false⟩ : Fired)] = earlier ++ [fired] := by
    rw [← firings]
    decide
  obtain ⟨rfl, same⟩ := List.append_inj' single rfl
  obtain rfl := List.singleton_inj.mp same
  have reported : .stopped 0x202 (.stack .empty) ∈ last.journal.toList := by
    rw [journal]
    exact List.mem_append_right _ (List.mem_singleton.mpr rfl)
  exact ⟨strayReturn_finishes, strayReturn_fails, rfl, reported, by decide⟩

/-- A failure is not always reported at the place of the instruction that failed. -/
theorem failures_can_be_reported_behind :
    ¬ ∀ (paces : Paces) (clock : Clock) (stopSeen : Nat → Bool) (console : Console) (bound : Nat)
      (last : CpuRun) (fault : Fault),
      (start paces clock console).finish? clock stopSeen bound = some last →
      last.fault = some fault → ∀ earlier fired address,
      firings paces clock last.polls = earlier ++ [fired] →
      .stopped address fault ∈ last.journal.toList →
      address = ((console.machine.polls earlier).ticked fired).pc := by
  intro always
  have reported : .stopped 0x202 (.stack .empty) ∈
      ((start {} cycleClock strayReturn).turn cycleClock).journal.toList := by
    rw [(journal_of_failed strayReturn_fails).2]
    exact List.mem_append_right _ (List.mem_singleton.mpr rfl)
  have same := always {} cycleClock (fun _ => false) strayReturn 1 _ (.stack .empty)
    strayReturn_finishes strayReturn_fails [] ⟨true, false⟩ 0x202 (by decide) reported
  exact absurd same (by decide)

end CpuRun
end ChipEight
