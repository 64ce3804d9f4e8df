import ChipEight.Word
import ChipEight.Ticker

/-!
# The key latch

A host that only reports when a key goes down cannot tell when it goes up. The latch
remembers since when each key is held and releases it once it was held for long enough.

Keys are asked for by numbers of any size. A number stands for the key of its lowest digit.
-/

namespace ChipEight

/-- For every held key, the time of the press that counts. -/
structure KeyLatch where
  hold : Duration
  since : Vector (Option Instant) 16
  deriving DecidableEq

namespace KeyLatch

/-- No key is held. -/
def idle (hold : Duration) : KeyLatch := ⟨hold, Vector.replicate 16 none⟩

/-- Whether the key of a number is held. -/
def isHeld (latch : KeyLatch) (number : Nat) : Bool :=
  (latch.since.get (Fin.ofNat 16 number)).isSome

/-- Presses the key of a number and tells whether that is new. A held key keeps its time. -/
def press (latch : KeyLatch) (number : Nat) (now : Instant) : KeyLatch × Bool :=
  let key : Key := Fin.ofNat 16 number
  if latch.isHeld number then (latch, false)
  else ({ latch with since := latch.since.set key (some now) key.isLt }, true)

/-- Whether a key is held and has been for at least the hold time. -/
def isExpired (latch : KeyLatch) (now : Instant) (key : Key) : Bool :=
  match latch.since.get key with
  | some time => latch.hold ≤ now - time
  | none => false

/-- Releases the keys held for long enough and lists them in ascending order. -/
def releaseExpired (latch : KeyLatch) (now : Instant) : KeyLatch × List Key :=
  ({ latch with
      since := Vector.ofFn fun key => if latch.isExpired now key then none else latch.since.get key },
   (List.finRange 16).filter (latch.isExpired now))

/-- The held keys in ascending order. -/
def held (latch : KeyLatch) : List Key := (List.finRange 16).filter fun key => latch.isHeld key

end KeyLatch
end ChipEight
