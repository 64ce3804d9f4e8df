import ChipEight.Proofs.Machine.Frame
import Mathlib.Data.List.Induction

/-!
# Countdowns and their histories

A countdown is set now and then and loses one per tick until it is zero. So it is at the value it was
set to last, less the ticks since, and never below zero. This holds for every width.

The two timers of a machine are countdowns of a byte. Both lose one whenever the machine ticks; besides,
a cycle that executes `FX15` sets the one and a cycle that executes `FX18` sets the other, and nothing
else that happens while the machine runs changes either. So the history of each timer can be read off
the run, and the law above says what the timer is at, at every moment of it. A cycle that executes
`FX07` reads the delay timer as it is at its moment.
-/

namespace ChipEight

namespace Countdown

/-- What happens to a countdown. -/
inductive Event (width : Nat)
  | set (value : BitVec width)
  | tick
  deriving DecidableEq, Repr

namespace Event
variable {width : Nat}

/-- The value an event sets, if it sets one. -/
def value? : Event width → Option (BitVec width)
  | set value => some value
  | tick => none

/-- Whether an event is a tick. -/
def isTick (event : Event width) : Bool := event.value?.isNone

end Event

variable {width : Nat}

/-- The countdown after an event. -/
def follow (countdown : Countdown width) : Event width → Countdown width
  | .set value => ⟨value⟩
  | .tick => countdown.tick

/-- The countdown after several events. -/
def after (countdown : Countdown width) (events : List (Event width)) : Countdown width :=
  events.foldl follow countdown

/-- The value set last, or the value at the start if none was set. -/
def lastSet (start : BitVec width) (events : List (Event width)) : BitVec width :=
  (events.filterMap Event.value?).getLastD start

/-- The count of ticks since a value was set, or since the start if none was set. -/
def ticksSince (events : List (Event width)) : Nat := (events.reverse.takeWhile Event.isTick).length

/-- The value set last, less the ticks since, and not below zero. -/
def remaining (start : BitVec width) (events : List (Event width)) : Int :=
  max 0 (((lastSet start events).toNat : Int) - ticksSince events)

/-- Two histories in a row are followed one after the other. -/
theorem after_append (countdown : Countdown width) (earlier later : List (Event width)) :
    countdown.after (earlier ++ later) = (countdown.after earlier).after later :=
  List.foldl_append

/-- A countdown is active iff its value is positive. -/
theorem isActive_iff {countdown : Countdown width} :
    countdown.isActive = true ↔ 0 < countdown.left.toNat := by
  simp [isActive, Nat.pos_iff_ne_zero, ← BitVec.toNat_inj]

/-- A countdown is at the value set last, less the ticks since.

The induction goes by the latest event: a tick is one more since the value that counts, and a new
value is one that no tick has followed. -/
theorem toNat_after (countdown : Countdown width) (events : List (Event width)) :
    (countdown.after events).left.toNat =
      (lastSet countdown.left events).toNat - ticksSince events := by
  induction events using List.reverseRecOn with
  | nil => rfl
  | append_singleton events event inductionHypothesis =>
    rw [after_append]
    cases event with
    | set value => simp [after, follow, lastSet, ticksSince, Event.value?, Event.isTick]
    | tick =>
      have sameValue : lastSet countdown.left (events ++ [.tick]) = lastSet countdown.left events := by
        simp [lastSet, Event.value?]
      have oneMore : ticksSince (events ++ [.tick]) = ticksSince events + 1 := by
        rw [ticksSince, List.reverse_append, List.reverse_singleton, List.singleton_append,
          List.takeWhile_cons_of_pos rfl, List.length_cons, ticksSince]
      rw [sameValue, oneMore, Nat.sub_add_eq, ← inductionHypothesis]
      exact toNat_tick _

/-- What remains of a countdown is its value. -/
theorem remaining_eq (countdown : Countdown width) (events : List (Event width)) :
    ((countdown.after events).left.toNat : Int) = remaining countdown.left events := by
  rw [toNat_after, remaining]
  omega

end Countdown

/-- One of the two timers. -/
inductive Timer
  | delay
  | sound
  deriving DecidableEq, Repr

namespace Timer

/-- The countdown of a timer. -/
def of (timers : Timers) : Timer → Countdown 8
  | delay => timers.delay
  | sound => timers.sound

/-- The sound timer is the countdown of the tone. -/
theorem of_sound (timers : Timers) : of timers sound = timers.sound := rfl

/-- The constant of the words that set a timer: `FX15` and `FX18`. -/
def code : Timer → Byte
  | delay => 0x15
  | sound => 0x18

/-- The instruction that sets a timer. -/
def setting : Timer → Register → Instruction
  | delay => .setDelay
  | sound => .setSound

/-- The place of a timer among the parts of a machine. -/
def part : Timer → Part
  | delay => .delay
  | sound => .sound

/-- Whether a word sets a timer. -/
def isSetBy (timer : Timer) (word : Word) : Bool := word.family == 0xF && word.byte == timer.code

/-- A word that sets a timer sets it from the register it names. -/
theorem ofWord?_of_isSetBy {timer : Timer} {word : Word} (sets : timer.isSetBy word = true) :
    Instruction.ofWord? word = some (timer.setting word.x) := by
  obtain ⟨family, low⟩ : word.family = 0xF ∧ word.byte = timer.code := by
    simpa [isSetBy] using sets
  cases timer <;> simp [Instruction.ofWord?, Instruction.ofDeviceWord?, family, low, code, setting]

/-- No other words set a timer. -/
theorem isSetBy_of_ofWord? {timer : Timer} {word : Word} {x : Register}
    (known : Instruction.ofWord? word = some (timer.setting x)) : timer.isSetBy word = true := by
  have family : (timer.setting x).family = 0xF := by cases timer <;> rfl
  have written : (timer.setting x).encode = Instruction.byteWord 0xF x timer.code := by
    cases timer <;> rfl
  have low : word.byte = timer.code := by
    rw [← Instruction.encode_of_ofWord? known, written, Instruction.byte_byteWord]
  simp [isSetBy, low, ← Instruction.family_of_ofWord? known, family]

end Timer

/-- Whether a word reads the delay timer: `FX07`. -/
def Word.readsDelay (word : Word) : Bool := word.family == 0xF && word.byte == 0x07

/-- A word that reads the delay timer stores it in the register it names. -/
theorem Instruction.ofWord?_of_readsDelay {word : Word} (reads : word.readsDelay = true) :
    ofWord? word = some (.getDelay word.x) := by
  obtain ⟨family, low⟩ : word.family = 0xF ∧ word.byte = 0x07 := by
    simpa [Word.readsDelay] using reads
  simp [ofWord?, ofDeviceWord?, family, low]

namespace Machine

/-- What an action does to a timer: a tick counts, and a cycle that executes a word which sets the
timer sets it to the register the word names. -/
def eventIn? (machine : Machine) (timer : Timer) : Action → Option (Countdown.Event 8)
  | .tick => some .tick
  | .cycle => (machine.executed?.filter timer.isSetBy).map fun word =>
      .set (machine.register word.x).toBitVec
  | _ => none

/-- What happens to a timer in a run. -/
def eventsIn (machine : Machine) (timer : Timer) : List Action → List (Countdown.Event 8)
  | [] => []
  | action :: later => (machine.eventIn? timer action).toList ++ (machine.act action).eventsIn timer later

variable {machine : Machine} {timer : Timer}

/-- An instruction with a timer in its reach sets this timer. -/
theorem setting_of_reaches {instruction : Instruction}
    (reached : machine.reaches instruction timer.part = true) :
    ∃ x, instruction = timer.setting x := by
  cases timer with
  | delay =>
    cases instruction with
    | setDelay x => exact ⟨x, rfl⟩
    | _ => nomatch reached
  | sound =>
    cases instruction with
    | setSound x => exact ⟨x, rfl⟩
    | _ => nomatch reached

/-- A cycle does to a timer what the word it executes says. -/
theorem cycle_timer (machine : Machine) (timer : Timer) :
    timer.of machine.cycle.1.timers =
      (timer.of machine.timers).after (machine.eventIn? timer .cycle).toList := by
  by_cases sets : ∃ word, machine.executed? = some word ∧ timer.isSetBy word = true
  · obtain ⟨word, executed, sets⟩ := sets
    have happened : machine.eventIn? timer .cycle =
        some (.set (machine.register word.x).toBitVec) := by
      simp [eventIn?, executed, sets]
    have known := Timer.ofWord?_of_isSetBy sets
    have read := (executed?_eq_some.mp executed).1
    rw [happened]
    cases timer with
    | delay => rw [cycle_of_done read known rfl]; rfl
    | sound => rw [cycle_of_done read known rfl]; rfl
  · have nothing : machine.eventIn? timer .cycle = none := by
      simpa [eventIn?, Option.filter_eq_none_iff] using sets
    rw [nothing]
    -- A timer that changed would be in the reach of the executed instruction, which would then set it.
    have kept : timer.part.Same machine machine.cycle.1 := by
      by_contra changed
      obtain ⟨word, instruction, executed, known, reached⟩ := cycle_changed changed
      obtain ⟨x, rfl⟩ := setting_of_reaches reached
      exact sets ⟨word, executed, Timer.isSetBy_of_ofWord? known⟩
    cases timer <;> exact kept

/-- What happens while a machine runs does to a timer what the history says. -/
theorem act_timer (machine : Machine) (timer : Timer) {action : Action}
    (ordinary : action.isOrdinary = true) :
    timer.of (machine.act action).timers =
      (timer.of machine.timers).after (machine.eventIn? timer action).toList := by
  cases action with
  | cycle => exact machine.cycle_timer timer
  | tick => cases timer <;> rfl
  | setKey _ _ | setKeypad _ => rfl
  | execute _ | step _ => nomatch ordinary

/-- A timer follows its history through a run. -/
theorem run_timer (machine : Machine) (timer : Timer) {actions : List Action}
    (ordinary : ∀ action ∈ actions, action.isOrdinary = true) :
    timer.of (machine.run actions).timers =
      (timer.of machine.timers).after (machine.eventsIn timer actions) := by
  induction actions generalizing machine with
  | nil => rfl
  | cons action later inductionHypothesis =>
    obtain ⟨first, rest⟩ := List.forall_mem_cons.mp ordinary
    rw [eventsIn, Countdown.after_append, ← machine.act_timer timer first]
    exact inductionHypothesis (machine.act action) rest

/-- Only ticks happen to both timers: no word sets both. -/
theorem both_events_iff (machine : Machine) (action : Action) :
    (machine.eventIn? .delay action).isSome = true ∧ (machine.eventIn? .sound action).isSome = true ↔
      action = .tick := by
  cases action with
  | cycle =>
    have apart (word : Word) (delay : Timer.delay.isSetBy word = true) :
        Timer.sound.isSetBy word = false := by
      have low : word.byte = 0x15 := by simpa [Timer.code] using (Bool.and_eq_true_iff.mp delay).2
      simp [Timer.isSetBy, low, Timer.code]
    cases executed : machine.executed? with
    | none => simp [eventIn?, executed]
    | some word =>
      simpa [eventIn?, executed, Option.isSome_filter] using apart word
  | _ => simp [eventIn?]

/-- A word that reads the delay timer stores it as it is. -/
theorem cycle_of_readsDelay {word : Word} (executed : machine.executed? = some word)
    (reads : word.readsDelay = true) :
    machine.cycle.1.register word.x = machine.timers.delay.toByte := by
  have read := (executed?_eq_some.mp executed).1
  rw [cycle_of_done read (Instruction.ofWord?_of_readsDelay reads) rfl]
  exact Vector.getElem_set_self word.x.isLt

/-- Countdowns and timers over whole histories.

A countdown of any width is at the value it was set to last, or at its start, less the ticks since,
and never below zero; it is active iff that is positive. In any run of cycles, ticks and changes of
keys, each timer of a machine is such a countdown of its own history: of the ticks of the run, and of
the cycles that executed a word setting this very timer, each to the byte its register held. Only
ticks are in both histories. The tone sounds iff the sound timer is above zero, and a cycle that
executes `FX07` leaves in the register it names what the delay timer is at. -/
theorem timers_follow_histories :
    (∀ (width : Nat) (countdown : Countdown width) (events : List (Countdown.Event width)),
      ((countdown.after events).left.toNat : Int) = Countdown.remaining countdown.left events ∧
      ((countdown.after events).isActive = true ↔ 0 < Countdown.remaining countdown.left events)) ∧
    (∀ (machine : Machine) (actions : List Action),
      (∀ action ∈ actions, action.isOrdinary = true) →
      (∀ timer : Timer, ((timer.of (machine.run actions).timers).left.toNat : Int) =
        Countdown.remaining (timer.of machine.timers).left (machine.eventsIn timer actions)) ∧
      (∀ action, (machine.eventIn? .delay action).isSome = true ∧
        (machine.eventIn? .sound action).isSome = true ↔ action = .tick) ∧
      ((machine.run actions).isBeeping = true ↔ 0 < Countdown.remaining machine.timers.sound.left
        (machine.eventsIn .sound actions)) ∧
      ∀ word, (machine.run actions).executed? = some word → word.readsDelay = true →
        (((machine.run actions).cycle.1.register word.x).toNat : Int) =
          Countdown.remaining machine.timers.delay.left (machine.eventsIn .delay actions)) := by
  have active {width : Nat} (countdown : Countdown width) (events : List (Countdown.Event width)) :
      (countdown.after events).isActive = true ↔ 0 < Countdown.remaining countdown.left events := by
    rw [Countdown.isActive_iff, ← Countdown.remaining_eq, Int.natCast_pos]
  refine ⟨fun width countdown events => ⟨countdown.remaining_eq events, active countdown events⟩, ?_⟩
  intro machine actions ordinary
  have value (timer : Timer) : ((timer.of (machine.run actions).timers).left.toNat : Int) =
      Countdown.remaining (timer.of machine.timers).left (machine.eventsIn timer actions) := by
    rw [machine.run_timer timer ordinary, Countdown.remaining_eq]
  refine ⟨value, machine.both_events_iff, ?_, ?_⟩
  · rw [← active, ← Timer.of_sound, ← machine.run_timer .sound ordinary]
    rfl
  · intro word executed reads
    rw [cycle_of_readsDelay executed reads]
    exact value .delay

/-- A machine whose program sets the delay timer to 3 and the sound timer to 5, and reads the delay
timer into `V2`. Register `n` holds `n`. -/
def timing : Machine where
  name := "timing"
  memory := Memory.writeAll ⟨Vector.replicate 4096 0⟩
    [(0x200, 0xF3), (0x201, 0x15), (0x202, 0xF5), (0x203, 0x18), (0x204, 0xF2), (0x205, 0x07)]
  registers := Vector.ofFn fun number => UInt8.ofNat number.val
  index := 0
  pc := Fin.ofNat 4096 programStart
  opcode := 0
  stack := .empty
  timers := .finished
  screen := .blank
  keypad := .released
  entropy := ⟨fun _ => 0, 0⟩

/-- A tick before the first setting counts for neither timer, one between the settings for the delay
timer only; so this one is read at 1 while the sound timer is at 4 and sounds. -/
theorem delay_is_read_while_beeping :
    let actions : List Action := [.tick, .cycle, .tick, .cycle, .tick]
    ((timing.run actions).cycle.1.register 2).toNat = 1 ∧
      (timing.run actions).timers.sound.left.toNat = 4 ∧ (timing.run actions).isBeeping = true := by
  intro actions
  have ordinary : ∀ action ∈ actions, action.isOrdinary = true := by decide
  obtain ⟨value, _, beeping, read⟩ := timers_follow_histories.2 timing actions ordinary
  have delayEvents : timing.eventsIn .delay actions = [.tick, .set 3, .tick, .tick] := by
    decide +kernel
  have soundEvents : timing.eventsIn .sound actions = [.tick, .tick, .set 5, .tick] := by
    decide +kernel
  have executed : (timing.run actions).executed? = some 0xF207 := by decide +kernel
  have atOne : Countdown.remaining timing.timers.delay.left (timing.eventsIn .delay actions) = 1 := by
    rw [delayEvents]
    decide +kernel
  have atFour : Countdown.remaining timing.timers.sound.left (timing.eventsIn .sound actions) = 4 := by
    rw [soundEvents]
    decide +kernel
  have stored := (read 0xF207 executed (by decide)).trans atOne
  rw [show (0xF207 : Word).x = 2 by decide] at stored
  have left := value .sound
  rw [Timer.of_sound, Timer.of_sound, atFour] at left
  refine ⟨Int.ofNat.inj stored, Int.ofNat.inj left, beeping.mpr ?_⟩
  rw [atFour]
  decide

end Machine
end ChipEight
