import ChipEight.Loop.Surface
import ChipEight.Proofs.Machine.Effects

/-!
# Keys of the latch and keys of the machine

The surface loop keeps two copies of the keys: the latch, which knows since when a key is held,
and the pad of the machine. A press and a sweep of releases change both. This module says what
they do to one key of either copy, and that nothing else moves a key, so that the theories about whole
runs never open a vector.
-/

namespace ChipEight

namespace Keypad

/-- Only the key that was moved changes. -/
theorem isDown_set (keypad : Keypad) (key other : Key) (isDown : Bool) :
    (keypad.set key isDown).isDown other = if other = key then isDown else keypad.isDown other := by
  by_cases same : other = key
  · simp [set, Keypad.isDown, same]
  · have apart : key.val ≠ other.val := fun equal => same (Fin.ext equal.symm)
    simp [set, Keypad.isDown, same, Vector.getElem_set_ne _ _ apart]

/-- On a released pad no key is down. -/
theorem isDown_released (key : Key) : released.isDown key = false := by
  simp [released, isDown]

end Keypad

namespace KeyLatch

variable (latch : KeyLatch) (now : Instant)

/-- The time of a key stands at its number. -/
theorem get_since (since : Vector (Option Instant) 16) (key : Key) (inside : key.val < 16) :
    since.get key = since[key.val] := rfl

/-- Before the first press no key has a time. -/
theorem since_idle (hold : Duration) (key : Key) : (idle hold).since.get key = none := by
  rw [idle, get_since _ key key.isLt, Vector.getElem_replicate]

/-- A number is held iff its key has a time. -/
theorem isHeld_iff {number : Nat} :
    latch.isHeld number = true ↔ ∃ time, latch.since.get (Fin.ofNat 16 number) = some time :=
  Option.isSome_iff_exists

/-- The number of a key stands for it. -/
theorem isHeld_val (key : Key) : latch.isHeld key = (latch.since.get key).isSome := by
  rw [isHeld, Fin.ofNat_val_eq_self]

/-- A held key is not pressed again, and keeps its time. -/
theorem press_of_isHeld {number : Nat} (held : latch.isHeld number = true) :
    latch.press number now = (latch, false) := by
  simp [press, held]

/-- A press of a key that is not held gives it the present time. -/
theorem press_of_not_isHeld {number : Nat} (free : latch.isHeld number = false) :
    (latch.press number now).2 = true ∧ (latch.press number now).1.hold = latch.hold ∧
      ∀ other, (latch.press number now).1.since.get other =
        if other = Fin.ofNat 16 number then some now else latch.since.get other := by
  have taken : latch.press number now =
      ({ latch with since := latch.since.set (Fin.ofNat 16 number) (some now) (Fin.isLt _) },
        true) := by
    rw [press, free]
    rfl
  rw [taken]
  generalize Fin.ofNat 16 number = key
  refine ⟨rfl, rfl, fun other => ?_⟩
  by_cases same : other = key
  · simp [same, get_since]
  · have apart : key.val ≠ other.val := fun equal => same (Fin.ext equal.symm)
    simp [same, get_since, Vector.getElem_set_ne _ _ apart]

/-- A key has expired once it has been held for the hold time. -/
theorem isExpired_iff {key : Key} :
    latch.isExpired now key = true ↔
      ∃ time, latch.since.get key = some time ∧ latch.hold ≤ now - time := by
  unfold isExpired
  cases latch.since.get key <;> simp

/-- A sweep takes their time from the expired keys. -/
theorem since_releaseExpired (key : Key) :
    (latch.releaseExpired now).1.since.get key =
      if latch.isExpired now key then none else latch.since.get key := by
  simp [releaseExpired, get_since]

/-- A sweep lists the expired keys. -/
theorem mem_releaseExpired {key : Key} :
    key ∈ (latch.releaseExpired now).2 ↔ latch.isExpired now key = true := by
  simp [releaseExpired]

end KeyLatch

/-- Whatever happens while the surface is polled, no key moves. -/
theorem Activity.act_keypad (activity : Activity) (console : Console) :
    (activity.act console).machine.keypad = console.machine.keypad := by
  cases activity with
  | cycle => exact console.machine.cycle_keypad
  | tick => rfl
  | raiseStop => rfl

namespace SurfaceLoop

variable (loop : SurfaceLoop) (now : Instant) (console : Console)

/-- A report that names no key, or one that is held, changes nothing. -/
theorem press_ignored {host : Char}
    (ignored : ∀ key, Key.ofChar? host = some key → loop.latch.isHeld key = true) :
    (loop.press host now console).1 = loop ∧ (loop.press host now console).2.1 = console := by
  unfold press
  cases found : Key.ofChar? host with
  | none => exact ⟨rfl, rfl⟩
  | some key => simp [loop.latch.press_of_isHeld now (ignored key found)]

/-- A report of a key that is not held gives it the present time and moves it down. -/
theorem press_taken {host : Char} {key : Key} (found : Key.ofChar? host = some key)
    (free : loop.latch.isHeld key = false) :
    (loop.press host now console).1 = { loop with latch := (loop.latch.press key now).1 } ∧
      (loop.press host now console).2.1 =
        { console with machine := console.machine.setKey key true } := by
  have isNew := (loop.latch.press_of_not_isHeld now free).1
  simp [press, found, isNew]

/-- Keys that are moved up one after the other are up in the end; all others stay. -/
theorem isDown_foldl (machine : Machine) (keys : List Key) (key : Key) :
    (keys.foldl (fun machine key => machine.setKey key false) machine).keypad.isDown key = true ↔
      key ∉ keys ∧ machine.keypad.isDown key = true := by
  induction keys generalizing machine with
  | nil => simp
  | cons first later inductionHypothesis =>
    rw [List.foldl_cons, inductionHypothesis]
    by_cases same : key = first <;> simp [same, Machine.setKey, Keypad.isDown_set]

/-- A sweep keeps the hold time. -/
theorem release_hold : (loop.release now console).1.latch.hold = loop.latch.hold := by
  simp [release, KeyLatch.releaseExpired]

/-- A sweep moves the expired keys up, in the latch and in the machine. -/
theorem release_effect (key : Key) :
    (loop.release now console).1.latch.since.get key =
        (if loop.latch.isExpired now key then none else loop.latch.since.get key) ∧
      (loop.release now console).2.machine.keypad.isDown key =
        if loop.latch.isExpired now key then false else console.machine.keypad.isDown key := by
  refine ⟨loop.latch.since_releaseExpired now key, ?_⟩
  rw [Bool.eq_iff_iff]
  unfold release
  rw [isDown_foldl, loop.latch.mem_releaseExpired now]
  cases loop.latch.isExpired now key <;> simp

/-- Taking a picture moves no key. -/
theorem snapshot_keeps :
    (loop.snapshot now console).1.latch = loop.latch ∧
      (loop.snapshot now console).2.1.machine = console.machine := by
  cases due : (loop.ticker.fire now).2 <;> simp [snapshot, due]

end SurfaceLoop
end ChipEight
