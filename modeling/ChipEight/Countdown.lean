import ChipEight.Word

/-!
# Countdowns

A countdown holds an unsigned number of some width and loses one per tick until it is zero,
where it stays. The machine has two of them: one a program can read back, and one that
sounds a tone for as long as it runs.
-/

namespace ChipEight

/-- A number of ticks still to go. -/
structure Countdown (width : Nat) where
  left : BitVec width
  deriving DecidableEq, Repr

namespace Countdown
variable {width : Nat}

/-- A countdown that has run out. -/
def finished : Countdown width := ⟨0⟩

/-- A countdown is active until it reaches zero. -/
def isActive (countdown : Countdown width) : Bool := countdown.left != 0

/-- One tick; zero stays zero. -/
def tick (countdown : Countdown width) : Countdown width :=
  if countdown.isActive then ⟨countdown.left - 1⟩ else countdown

/-- Many ticks. After the last active one there is nothing left to do. -/
def ticks (countdown : Countdown width) : Nat → Countdown width
  | 0 => countdown
  | count + 1 => if countdown.isActive then countdown.tick.ticks count else countdown

/-- Zero stays zero however often it ticks. -/
theorem ticks_of_not_isActive {countdown : Countdown width} (inactive : countdown.isActive = false)
    (count : Nat) : countdown.ticks count = countdown := by
  cases count with
  | zero => rfl
  | succ count => simp [ticks, inactive]

/-- The first of many ticks is a tick like any other. -/
theorem ticks_succ (countdown : Countdown width) (count : Nat) :
    countdown.ticks (count + 1) = countdown.tick.ticks count := by
  cases active : countdown.isActive with
  | false => simp [ticks, tick, active, ticks_of_not_isActive]
  | true => simp [ticks, active]

/-- A tick takes one off, if there is one left. -/
theorem toNat_tick (countdown : Countdown width) :
    countdown.tick.left.toNat = countdown.left.toNat - 1 := by
  cases active : countdown.isActive with
  | false =>
    have zero : countdown.left = 0 := by simpa [isActive] using active
    simp [tick, active, zero]
  | true =>
    have apart : countdown.left ≠ 0 := by simpa [isActive] using active
    have positive : 0 < countdown.left.toNat :=
      Nat.pos_of_ne_zero fun zero => apart (BitVec.eq_of_toNat_eq (by simp [zero]))
    have bound : countdown.left.toNat < 2 ^ width := countdown.left.isLt
    have one : (1 : BitVec width).toNat = 1 :=
      (BitVec.toNat_ofNat 1 width).trans (Nat.mod_eq_of_lt (by omega))
    have below : (1 : BitVec width) ≤ countdown.left := by
      rw [BitVec.le_def, one]
      exact positive
    simp only [tick, active, if_true]
    rw [BitVec.toNat_sub_of_le below, one]

/-- Many ticks take off their number, or whatever is left. -/
theorem toNat_ticks (countdown : Countdown width) (count : Nat) :
    (countdown.ticks count).left.toNat = countdown.left.toNat - count := by
  induction count generalizing countdown with
  | zero => rfl
  | succ count inductionHypothesis =>
    rw [ticks_succ, inductionHypothesis, toNat_tick]
    omega

/-- A countdown of a byte. -/
def ofByte (byte : Byte) : Countdown 8 := ⟨byte.toBitVec⟩

/-- The byte a countdown is at. -/
def toByte (countdown : Countdown 8) : Byte := ⟨countdown.left⟩

end Countdown

/-- The two countdowns of the machine. -/
structure Timers where
  delay : Countdown 8
  sound : Countdown 8
  deriving DecidableEq, Repr

namespace Timers

/-- Both have run out. -/
def finished : Timers := ⟨.finished, .finished⟩

/-- Both count at the same pace, each for itself. -/
def tick (timers : Timers) : Timers := ⟨timers.delay.tick, timers.sound.tick⟩

/-- Many ticks. -/
def ticks (timers : Timers) (count : Nat) : Timers :=
  ⟨timers.delay.ticks count, timers.sound.ticks count⟩

/-- The tone sounds while the sound timer runs. -/
def isBeeping (timers : Timers) : Bool := timers.sound.isActive

end Timers
end ChipEight
