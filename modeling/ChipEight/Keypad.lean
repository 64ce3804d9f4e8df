import ChipEight.Word

/-!
# The key pad

Sixteen keys, each up or down. The pad arranges them in four rows of four; a host keyboard
reaches them through the keys at the same places of its left block.
-/

namespace ChipEight

/-- Which keys are down. -/
structure Keypad where
  down : Vector Bool 16
  deriving DecidableEq

namespace Keypad

/-- Every key is up. -/
def released : Keypad := ⟨Vector.replicate 16 false⟩

/-- Moves one key. -/
def set (keypad : Keypad) (key : Key) (isDown : Bool) : Keypad := ⟨keypad.down.set key isDown⟩

/-- Whether a key is down. -/
def isDown (keypad : Keypad) (key : Key) : Bool := keypad.down[key]

/-- The lowest key that is down. -/
def firstDown? (keypad : Keypad) : Option Key := (List.finRange 16).find? keypad.isDown

/-- There is no lowest key that is down iff all keys are up. -/
theorem firstDown?_eq_none {keypad : Keypad} :
    keypad.firstDown? = none ↔ ∀ key, keypad.isDown key = false := by
  simp [firstDown?]

/-- The lowest key that is down is down, and all keys below it are up. -/
theorem firstDown?_eq_some {keypad : Keypad} {key : Key} :
    keypad.firstDown? = some key ↔
      keypad.isDown key = true ∧ ∀ lower < key, keypad.isDown lower = false := by
  rw [firstDown?, List.find?_eq_some_iff_getElem]
  refine and_congr_right fun _ => ?_
  constructor
  · rintro ⟨place, inside, found, lower⟩ other before
    obtain rfl : place = key.val := by simpa using congrArg Fin.val found
    simpa using lower other.val before
  · intro lower
    refine ⟨key.val, by simp, by simp, fun place before => ?_⟩
    simpa using lower ⟨place, Nat.lt_trans before key.isLt⟩ before

/-- The pad whose key `k` is down iff bit `k` of a number is set. -/
def ofMask (mask : Nat) : Keypad := ⟨Vector.ofFn fun key => mask.testBit key.val⟩

/-- The number whose bit `k` is set iff key `k` is down. -/
def toMask (keypad : Keypad) : Nat :=
  (List.finRange 16).foldl (fun mask key => if keypad.isDown key then mask + 1 <<< key.val else mask) 0

end Keypad

namespace Key

/-- The keys as they lie on the pad. -/
def layout : List (List Key) :=
  [[0x1, 0x2, 0x3, 0xC],
   [0x4, 0x5, 0x6, 0xD],
   [0x7, 0x8, 0x9, 0xE],
   [0xA, 0x0, 0xB, 0xF]]

/-- The characters at the same places of a host keyboard. -/
def hostLayout : List (List Char) :=
  [['1', '2', '3', '4'],
   ['q', 'w', 'e', 'r'],
   ['a', 's', 'd', 'f'],
   ['z', 'x', 'c', 'v']]

/-- The key a host character stands for. Letters may have either case; only the case of
plain Latin letters is ignored. -/
def ofChar? (host : Char) : Option Key :=
  (hostLayout.flatten.zip layout.flatten).lookup host.toLower

end Key
end ChipEight
