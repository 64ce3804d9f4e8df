import ChipEight.Proofs.Loop.Polls
import Mathlib.Control.Monad.Basic

/-!
# The cpu loop as a fold

A run of the cpu loop on its own is compared with a reference that knows no loop: two tickers
are started at the first reading of the clock, each later reading is a poll, and the machine
is folded over what the tickers answer to these readings. The fold ends at the first check
that finds the stop flag raised or with the first cycle that fails, whichever comes first.

The invariant `Follows` says that a run that has not ended is the fold so far. It is kept by
one pass, so a run ends where the fold does and leaves what the fold leaves. Nothing is asked
of the clock, which may run backwards, nor of the schedule at which the stop flag becomes
visible. Whether the loop ends at all depends on both; a run that must end is shown to end as
soon as its bound allows.
-/

namespace ChipEight

/-- The readings that the first polls are made with. The reading before them starts the
tickers. -/
def Clock.pollTimes (clock : Clock) (count : Nat) : List Instant :=
  (List.range count).map fun poll => clock (poll + 1)

/-- The ticker for cycles, before the first poll. -/
def Paces.cpuTicker (paces : Paces) (clock : Clock) : Ticker :=
  ⟨.ofHertz paces.cpuHertz, clock 0⟩

/-- The ticker for the timers, before the first poll. -/
def Paces.timerTicker (paces : Paces) (clock : Clock) : Ticker :=
  ⟨.ofHertz paces.timerHertz, clock 0⟩

/-- What is due at the first polls, by two tickers that know nothing of each other. -/
def firings (paces : Paces) (clock : Clock) (count : Nat) : List Fired :=
  List.zipWith Fired.mk ((paces.cpuTicker clock).fires (clock.pollTimes count))
    ((paces.timerTicker clock).fires (clock.pollTimes count))

/-- No cycle among some answers has failed. -/
def Succeeded (answers : List (Except Fault Signal)) : Prop :=
  ∀ answer ∈ answers, ∃ signal, answer = .ok signal

/-- Where the fold ends: after how many polls, and with which fault.

A fold that is stopped makes no further poll. A fold that fails has made the poll that fails:
with its tick, if one is due, and with its cycle, the first one that fails. -/
inductive EndsAfter (paces : Paces) (clock : Clock) (stopSeen : Nat → Bool) (machine : Machine) :
    Nat → Option Fault → Prop
  | stopped (count : Nat)
      (unseen : ∀ check < count, stopSeen check = false)
      (seen : stopSeen count = true)
      (succeeded : Succeeded (machine.answers (firings paces clock count))) :
      EndsAfter paces clock stopSeen machine count none
  | failed (count : Nat) (fault : Fault)
      (unseen : ∀ check ≤ count, stopSeen check = false)
      (succeeded : Succeeded (machine.answers (firings paces clock count)))
      (fails : machine.answers (firings paces clock (count + 1)) =
        machine.answers (firings paces clock count) ++ [.error fault]) :
      EndsAfter paces clock stopSeen machine (count + 1) (some fault)

/-- One more poll is made with the next reading. -/
theorem Clock.pollTimes_succ (clock : Clock) (count : Nat) :
    clock.pollTimes (count + 1) = clock.pollTimes count ++ [clock (count + 1)] := by
  simp [pollTimes, List.range_succ]

/-- The scheduler after some polls is the pair of both tickers after them. -/
def schedulerAfter (paces : Paces) (clock : Clock) (count : Nat) : Scheduler :=
  ⟨(paces.cpuTicker clock).after (clock.pollTimes count),
    (paces.timerTicker clock).after (clock.pollTimes count)⟩

/-- One more poll of the scheduler moves both tickers on. -/
theorem schedulerAfter_succ (paces : Paces) (clock : Clock) (count : Nat) :
    schedulerAfter paces clock (count + 1) =
      ((schedulerAfter paces clock count).poll (clock (count + 1))).1 := by
  simp [schedulerAfter, Scheduler.poll, Clock.pollTimes_succ, Ticker.after_concat]

/-- One more poll of both tickers finds what one more poll of the scheduler finds. -/
theorem firings_succ (paces : Paces) (clock : Clock) (count : Nat) :
    firings paces clock (count + 1) = firings paces clock count ++
      [((schedulerAfter paces clock count).poll (clock (count + 1))).2] := by
  have even : ((paces.cpuTicker clock).fires (clock.pollTimes count)).length =
      ((paces.timerTicker clock).fires (clock.pollTimes count)).length := by
    rw [Ticker.length_fires, Ticker.length_fires]
  simp [firings, schedulerAfter, Scheduler.poll, Clock.pollTimes_succ, Ticker.fires_concat,
    List.zipWith_append even]

/-- An answer that has no fault succeeded, if there is one. -/
theorem Succeeded.concat {answers : List (Except Fault Signal)}
    {answer : Option (Except Fault Signal)} (succeeded : Succeeded answers)
    (passed : failure? answer = none) : Succeeded (answers ++ answer.toList) := by
  intro each present
  rcases List.mem_append.mp present with earlier | last
  · exact succeeded each earlier
  · obtain rfl : answer = some each := Option.mem_toList.mp last
    cases each with
    | error fault => simp [failure?] at passed
    | ok signal => exact ⟨signal, rfl⟩

/-- Cycles that all succeeded did so at any earlier poll. -/
theorem Succeeded.earlier {paces : Paces} {clock : Clock} {machine : Machine} {fewer count : Nat}
    (notMore : fewer ≤ count)
    (succeeded : Succeeded (machine.answers (firings paces clock count))) :
    Succeeded (machine.answers (firings paces clock fewer)) := by
  induction notMore with
  | refl => exact succeeded
  | step reached inductionHypothesis =>
    rw [firings_succ, Machine.answers_concat] at succeeded
    exact inductionHypothesis fun answer present =>
      succeeded answer (List.mem_append_left _ present)

namespace CpuRun

/-- What a run has in common with the fold over its polls, whether it has ended or not. -/
structure Follows (paces : Paces) (clock : Clock) (console : Console) (run : CpuRun) : Prop where
  scheduler : run.loop.scheduler = schedulerAfter paces clock run.polls
  machine : run.console.machine = console.machine.polls (firings paces clock run.polls)
  redraw : run.console.redraw = true ↔ console.redraw = true ∨
    .ok .drawn ∈ console.machine.answers (firings paces clock run.polls)
  readings : run.readings = run.polls + 1

variable {paces : Paces} {clock : Clock} {console : Console} {run : CpuRun}

/-- Before its first poll a run is the empty fold. -/
theorem start_follows (paces : Paces) (clock : Clock) (console : Console) :
    (start paces clock console).Follows paces clock console where
  scheduler := rfl
  machine := rfl
  redraw := by simp [start, firings, Clock.pollTimes, Ticker.fires, Machine.answers]
  readings := rfl

/-- What is due at the next poll of a run. -/
def nextFired (clock : Clock) (run : CpuRun) : Fired := (run.loop.poll (clock run.readings)).2

/-- The fold grows by what is due at the next poll. -/
theorem Follows.firings_next (follows : run.Follows paces clock console) :
    firings paces clock (run.polls + 1) =
      firings paces clock run.polls ++ [run.nextFired clock] := by
  rw [firings_succ, nextFired, CpuLoop.poll, follows.scheduler, follows.readings]

/-- The answers grow by the answer of the next poll, if it makes a cycle. -/
theorem Follows.answers_next (follows : run.Follows paces clock console) :
    console.machine.answers (firings paces clock (run.polls + 1)) =
      console.machine.answers (firings paces clock run.polls) ++
        (run.console.machine.answer? (run.nextFired clock)).toList := by
  rw [follows.firings_next, Machine.answers_concat, follows.machine]

/-- What the next pass does is the effect of what is due at it. -/
theorem turn_effect (clock : Clock) (run : CpuRun) :
    CpuLoop.Effect (run.loop.poll (clock run.readings)).1 (run.nextFired clock) run.console
      (run.loop.turn (clock run.readings) run.console) :=
  CpuLoop.act_effect _ _ _

/-- One pass goes along with one poll of the fold. -/
theorem Follows.turn (follows : run.Follows paces clock console) :
    (run.turn clock).Follows paces clock console := by
  have effect := run.turn_effect clock
  constructor
  · calc (run.turn clock).loop.scheduler
        = ((run.loop.scheduler).poll (clock run.readings)).1 := effect.scheduler
      _ = schedulerAfter paces clock (run.polls + 1) := by
        rw [follows.scheduler, follows.readings, schedulerAfter_succ]
  · calc (run.turn clock).console.machine
        = run.console.machine.poll (run.nextFired clock) := effect.machine
      _ = console.machine.polls (firings paces clock (run.polls + 1)) := by
        rw [follows.firings_next, Machine.polls_concat, follows.machine]
  · calc (run.turn clock).console.redraw = true
        ↔ run.console.redraw = true ∨
            run.console.machine.answer? (run.nextFired clock) = some (.ok .drawn) := effect.redraw
      _ ↔ console.redraw = true ∨
            .ok .drawn ∈ console.machine.answers (firings paces clock (run.polls + 1)) := by
        rw [follows.answers_next, List.mem_append, Option.mem_toList, follows.redraw, or_assoc]
  · exact congrArg (· + 1) follows.readings

/-- The fault of a pass is the fault of its cycle. -/
theorem turn_fault (clock : Clock) (run : CpuRun) :
    (run.turn clock).fault = failure? (run.console.machine.answer? (run.nextFired clock)) :=
  (run.turn_effect clock).fault

/-- A pass whose cycle fails asks both loops to stop. -/
theorem turn_stop (failed : (run.turn clock).fault.isSome = true) :
    (run.turn clock).console.stop = true := by
  have effect := run.turn_effect clock
  have raised : (run.turn clock).console.stop =
      (run.console.stop || (run.turn clock).fault.isSome) := effect.stop
  rw [raised, failed, Bool.or_true]

/-- A run that has not ended: its checks found the stop flag low, and its cycles succeeded. -/
structure Running (paces : Paces) (clock : Clock) (stopSeen : Nat → Bool) (console : Console)
    (run : CpuRun) : Prop extends Follows paces clock console run where
  unseen : ∀ check < run.polls, stopSeen check = false
  succeeded : Succeeded (console.machine.answers (firings paces clock run.polls))
  fault : run.fault = none

variable {stopSeen : Nat → Bool}

/-- A run ends at a check that finds the flag raised or with a pass that fails. -/
theorem finish_succ (clock : Clock) (stopSeen : Nat → Bool) (bound : Nat) (run : CpuRun) :
    run.finish? clock stopSeen (bound + 1) =
      if stopSeen run.polls then some { run with console := run.console.raiseStop }
      else if (run.turn clock).fault.isSome then some (run.turn clock)
      else (run.turn clock).finish? clock stopSeen bound := rfl

/-- A run that has not ended is still running after a check that finds nothing and a pass
without a fault. -/
theorem Running.turn (running : run.Running paces clock stopSeen console)
    (low : stopSeen run.polls = false) (passed : (run.turn clock).fault = none) :
    (run.turn clock).Running paces clock stopSeen console where
  toFollows := running.toFollows.turn
  unseen := by
    intro check earlier
    rcases Nat.lt_succ_iff_lt_or_eq.mp earlier with before | rfl
    · exact running.unseen check before
    · exact low
  succeeded := by
    have quiet : failure? (run.console.machine.answer? (run.nextFired clock)) = none := by
      rw [← turn_fault, passed]
    have grown : Succeeded (console.machine.answers (firings paces clock (run.polls + 1))) := by
      rw [running.answers_next]
      exact running.succeeded.concat quiet
    exact grown
  fault := passed

/-- A run that has not ended and whose next pass fails is at the end of the fold. -/
theorem Running.fails (running : run.Running paces clock stopSeen console)
    (low : stopSeen run.polls = false) (fault : Fault)
    (failed : (run.turn clock).fault = some fault) :
    EndsAfter paces clock stopSeen console.machine (run.polls + 1) (some fault) := by
  refine .failed run.polls fault ?_ running.succeeded ?_
  · intro check reached
    rcases Nat.le_iff_lt_or_eq.mp reached with before | rfl
    · exact running.unseen check before
    · exact low
  · have answered : run.console.machine.answer? (run.nextFired clock) = some (.error fault) := by
      rw [← failure?_eq_some, ← turn_fault, failed]
    rw [running.answers_next, answered, Option.toList_some]

/-- A run that ends has a last moment before its end, where it finds the stop flag raised or makes a pass
that fails. What the passes before keep holds there.

Proof: by induction on the bound. A check that finds nothing and a pass without a fault leave a run that
has not ended. -/
theorem Running.last_moment (holds : CpuRun → Prop) {bound : Nat} {last : CpuRun}
    (running : run.Running paces clock stopSeen console) (begun : holds run)
    (kept : ∀ run : CpuRun, run.Running paces clock stopSeen console → holds run →
      (run.turn clock).fault = none → holds (run.turn clock))
    (finished : run.finish? clock stopSeen bound = some last) :
    ∃ moment : CpuRun, moment.Running paces clock stopSeen console ∧ holds moment ∧
      (stopSeen moment.polls = true ∧ last = { moment with console := moment.console.raiseStop } ∨
        stopSeen moment.polls = false ∧ (moment.turn clock).fault.isSome = true ∧
          last = moment.turn clock) := by
  induction bound generalizing run with
  | zero => simp [finish?] at finished
  | succ bound inductionHypothesis =>
    rw [finish_succ] at finished
    cases seen : stopSeen run.polls with
    | true =>
      rw [if_pos seen] at finished
      exact ⟨run, running, begun, .inl ⟨seen, (Option.some.inj finished).symm⟩⟩
    | false =>
      rw [seen, if_neg Bool.false_ne_true] at finished
      cases outcome : (run.turn clock).fault with
      | some fault =>
        have failed : (run.turn clock).fault.isSome = true := by rw [outcome, Option.isSome_some]
        rw [if_pos failed] at finished
        exact ⟨run, running, begun, .inr ⟨seen, failed, (Option.some.inj finished).symm⟩⟩
      | none =>
        rw [outcome, Option.isSome_none, if_neg Bool.false_ne_true] at finished
        exact inductionHypothesis (running.turn seen outcome) (kept run running begun outcome) finished

/-- A run ends only where the fold ends, and then is the fold. The check that finds the flag raised and
the pass that fails are the two ends of the fold. -/
theorem Running.finish_sound {bound : Nat} {last : CpuRun}
    (running : run.Running paces clock stopSeen console)
    (finished : run.finish? clock stopSeen bound = some last) :
    EndsAfter paces clock stopSeen console.machine last.polls last.fault ∧
      last.Follows paces clock console ∧ last.console.stop = true := by
  obtain ⟨moment, running, -, ⟨seen, rfl⟩ | ⟨low, failed, rfl⟩⟩ :=
    running.last_moment (fun _ => True) trivial (fun _ _ _ _ => trivial) finished
  · refine ⟨?_, ?_, rfl⟩
    · rw [running.fault]
      exact .stopped moment.polls running.unseen seen running.succeeded
    · exact ⟨running.scheduler, running.machine, running.redraw, running.readings⟩
  · obtain ⟨fault, outcome⟩ := Option.isSome_iff_exists.mp failed
    refine ⟨?_, running.toFollows.turn, turn_stop failed⟩
    rw [outcome]
    exact running.fails low fault outcome

/-- A pass after which all cycles have succeeded has no fault. -/
theorem Running.passes (running : run.Running paces clock stopSeen console)
    (succeeded : Succeeded (console.machine.answers (firings paces clock (run.polls + 1)))) :
    (run.turn clock).fault = none := by
  rw [turn_fault]
  cases outcome : failure? (run.console.machine.answer? (run.nextFired clock)) with
  | none => rfl
  | some fault =>
    rw [running.answers_next, failure?_eq_some.mp outcome] at succeeded
    obtain ⟨signal, absurd⟩ := succeeded (.error fault) (by simp)
    nomatch absurd

/-- A pass before the end of the fold is made, and it fails only if the fold ends there. -/
theorem Running.pass_before_end {count : Nat} {fault : Option Fault}
    (running : run.Running paces clock stopSeen console)
    (ends : EndsAfter paces clock stopSeen console.machine count fault)
    (before : run.polls < count) :
    stopSeen run.polls = false ∧
      ((run.turn clock).fault = none ∨
        run.polls + 1 = count ∧ (run.turn clock).fault = fault) := by
  cases ends with
  | stopped _ unseen seen succeeded =>
    exact ⟨unseen run.polls before, .inl (running.passes (succeeded.earlier before))⟩
  | failed count fault unseen succeeded fails =>
    refine ⟨unseen run.polls (Nat.lt_succ_iff.mp before), ?_⟩
    rcases Nat.lt_succ_iff_lt_or_eq.mp before with sooner | here
    · exact .inl (running.passes (succeeded.earlier sooner))
    · rw [← here] at fails ⊢
      have last : (run.console.machine.answer? (run.nextFired clock)).toList = [.error fault] :=
        List.append_cancel_left (running.answers_next.symm.trans fails)
      have answered : run.console.machine.answer? (run.nextFired clock) = some (.error fault) :=
        Option.mem_toList.mp (last ▸ List.mem_singleton_self _)
      refine .inr ⟨rfl, ?_⟩
      rw [turn_fault, answered]
      rfl

/-- A fold that has reached its last poll without a fault was stopped there. -/
theorem Running.stopped_at_end {fault : Option Fault}
    (running : run.Running paces clock stopSeen console)
    (ends : EndsAfter paces clock stopSeen console.machine run.polls fault) :
    stopSeen run.polls = true ∧ fault = none := by
  generalize reached : run.polls = count at ends
  cases ends with
  | stopped _ unseen seen succeeded => exact ⟨seen, rfl⟩
  | failed count fault unseen succeeded fails =>
    have succeeded := running.succeeded
    rw [reached, fails] at succeeded
    obtain ⟨signal, absurd⟩ := succeeded (.error fault) (by simp)
    nomatch absurd

/-- A run ends as soon as the fold ends, if its bound allows for the polls that are left. -/
theorem Running.finish_complete {bound count : Nat} {fault : Option Fault}
    (running : run.Running paces clock stopSeen console)
    (ends : EndsAfter paces clock stopSeen console.machine count fault)
    (ahead : run.polls ≤ count) (allowed : count < run.polls + bound) :
    ∃ last, run.finish? clock stopSeen bound = some last ∧ last.polls = count ∧
      last.fault = fault := by
  induction bound generalizing run with
  | zero => omega
  | succ bound inductionHypothesis =>
    rw [finish_succ]
    rcases Nat.lt_or_eq_of_le ahead with before | rfl
    · obtain ⟨low, outcome⟩ := running.pass_before_end ends before
      simp only [low]
      have polled : (run.turn clock).polls = run.polls + 1 := rfl
      cases failed : (run.turn clock).fault with
      | none =>
        have next := running.turn low failed
        simpa [failed] using inductionHypothesis next (by omega) (by omega)
      | some cause =>
        have same : run.polls + 1 = count ∧ some cause = fault := by
          rcases outcome with passed | last
          · simp [failed] at passed
          · rwa [failed] at last
        exact ⟨run.turn clock, by simp, polled.trans same.1, failed.trans same.2⟩
    · obtain ⟨seen, rfl⟩ := running.stopped_at_end ends
      exact ⟨_, if_pos seen, rfl, running.fault⟩

/-- A run reads the clock no less often than a part of it. -/
theorem readings_le_finish {bound : Nat} {last : CpuRun}
    (finished : run.finish? clock stopSeen bound = some last) : run.readings ≤ last.readings := by
  induction bound generalizing run with
  | zero => simp [finish?] at finished
  | succ bound inductionHypothesis =>
    rw [finish_succ] at finished
    have read : (run.turn clock).readings = run.readings + 1 := rfl
    split at finished
    · obtain rfl := Option.some.inj finished
      exact Nat.le_refl _
    · split at finished
      · obtain rfl := Option.some.inj finished
        omega
      · have later := inductionHypothesis finished
        omega

/-- Readings that a run does not make do not matter to it. -/
theorem finish_agrees {bound : Nat} {last : CpuRun} {other : Clock}
    (agrees : ∀ reading < last.readings, other reading = clock reading)
    (finished : run.finish? clock stopSeen bound = some last) :
    run.finish? other stopSeen bound = some last := by
  induction bound generalizing run with
  | zero => exact finished
  | succ bound inductionHypothesis =>
    rw [finish_succ] at finished ⊢
    by_cases seen : stopSeen run.polls = true
    · rwa [if_pos seen] at finished ⊢
    · rw [if_neg seen] at finished ⊢
      have read : (run.turn clock).readings ≤ last.readings := by
        split at finished
        · obtain rfl := Option.some.inj finished
          exact Nat.le_refl _
        · exact readings_le_finish finished
      have same : run.turn other = run.turn clock := by
        rw [turn, turn, agrees run.readings read]
      rw [same]
      by_cases failed : (run.turn clock).fault.isSome = true
      · rwa [if_pos failed] at finished ⊢
      · rw [if_neg failed] at finished ⊢
        exact inductionHypothesis finished

/-- A run is running before its first poll. -/
theorem start_running (paces : Paces) (clock : Clock) (stopSeen : Nat → Bool) (console : Console) :
    (start paces clock console).Running paces clock stopSeen console where
  toFollows := start_follows paces clock console
  unseen := fun _ earlier => absurd earlier (Nat.not_lt_zero _)
  succeeded := fun _ present => by
    simp [start, firings, Clock.pollTimes, Ticker.fires, Machine.answers] at present
  fault := rfl

/-- The cpu loop is a fold over its polls.

Where a run ends, the fold ends, with the same fault; the run leaves the machine of the fold,
has asked for a redraw iff that was asked for before or a cycle drew, leaves the stop flag
raised, and has read the clock once more than it polled, so that no later reading matters.
Where the fold ends, the run does, within any bound that exceeds the polls. A flag that is
seen before the first poll leaves the machine as it is. -/
theorem run_is_fold (paces : Paces) (clock : Clock) (stopSeen : Nat → Bool) (console : Console) :
    (∀ bound last, (start paces clock console).finish? clock stopSeen bound = some last →
      EndsAfter paces clock stopSeen console.machine last.polls last.fault ∧
      last.console.machine = console.machine.polls (firings paces clock last.polls) ∧
      (last.console.redraw = true ↔ console.redraw = true ∨
        .ok .drawn ∈ console.machine.answers (firings paces clock last.polls)) ∧
      last.console.stop = true ∧
      last.readings = last.polls + 1 ∧
      ∀ other : Clock, (∀ reading ≤ last.polls, other reading = clock reading) →
        (start paces other console).finish? other stopSeen bound = some last) ∧
    (∀ count fault, EndsAfter paces clock stopSeen console.machine count fault →
      ∀ bound > count, ∃ last,
        (start paces clock console).finish? clock stopSeen bound = some last ∧
        last.polls = count ∧ last.fault = fault) ∧
    (stopSeen 0 = true → ∀ bound, ∃ last,
      (start paces clock console).finish? clock stopSeen (bound + 1) = some last ∧
      last.console = console.raiseStop ∧ last.polls = 0 ∧ last.readings = 1 ∧
      last.fault = none) := by
  have running := start_running paces clock stopSeen console
  refine ⟨?_, ?_, ?_⟩
  · intro bound last finished
    obtain ⟨ends, follows, stopped⟩ := running.finish_sound finished
    refine ⟨ends, follows.machine, follows.redraw, stopped, follows.readings, ?_⟩
    intro other agrees
    have first : start paces other console = start paces clock console := by
      rw [start, start, agrees 0 (Nat.zero_le _)]
    have below : ∀ reading < last.readings, other reading = clock reading := by
      intro reading made
      rw [follows.readings] at made
      exact agrees reading (Nat.lt_succ_iff.mp made)
    rw [first]
    exact finish_agrees below finished
  · intro count fault ends bound allowed
    have none : (start paces clock console).polls = 0 := rfl
    exact running.finish_complete ends (by omega) (by omega)
  · intro seen bound
    exact ⟨_, if_pos seen, rfl, rfl, rfl, rfl⟩

/-- A console with a program that clears the screen, and then returns although nothing was called. -/
def clearAndReturn : Console where
  machine :=
    { name := "clear and return"
      memory := Memory.writeAll ⟨Vector.replicate 4096 0⟩ [(513, 0xE0), (515, 0xEE)]
      registers := Vector.replicate 16 0
      index := 0
      pc := Fin.ofNat 4096 programStart
      opcode := 0
      stack := .empty
      timers := .finished
      screen := .blank
      keypad := .released
      entropy := ⟨fun _ => 0, 0⟩ }
  redraw := false
  stop := false

/-- A clock that finds a cycle due at every second poll of the usual pace. -/
def everySecond : Clock := fun reading => 1000000 * reading

/-- The second cycle of the program fails, and ends the run with the fourth poll. -/
theorem second_cycle_ends_run :
    ∃ last, (start {} everySecond clearAndReturn).finish? everySecond (fun _ => false) 5 = some last ∧
      last.polls = 4 ∧ last.fault = some (.stack .empty) ∧ last.console.machine.pc = 0x204 ∧
      last.console.redraw = true ∧ last.console.stop = true ∧ last.readings = 5 := by
  have theory := run_is_fold {} everySecond (fun _ => false) clearAndReturn
  have drawn : clearAndReturn.machine.answers (firings {} everySecond 3) = [.ok .drawn] := by
    decide +kernel
  have failed : clearAndReturn.machine.answers (firings {} everySecond 4) =
      [.ok .drawn] ++ [.error (.stack .empty)] := by decide +kernel
  have succeeded : Succeeded (clearAndReturn.machine.answers (firings {} everySecond 3)) := by
    rw [drawn]
    exact fun answer made => ⟨.drawn, List.mem_singleton.mp made⟩
  obtain ⟨last, finished, polls, fault⟩ := theory.2.1 4 (some (.stack .empty))
    (.failed 3 (.stack .empty) (fun _ _ => rfl) succeeded (drawn ▸ failed)) 5 (by decide)
  obtain ⟨-, machine, redraw, stop, readings, -⟩ := theory.1 5 last finished
  rw [polls] at machine redraw readings
  refine ⟨last, finished, polls, fault, ?_, redraw.mpr (.inr ?_), stop, readings⟩
  · rw [machine]
    decide +kernel
  · simp [failed]

end CpuRun
end ChipEight
