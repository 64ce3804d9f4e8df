import ChipEight.Word

/-!
# The random source

Random bytes come from an endless sequence that is fixed from outside; the machine only
remembers how many it has taken. Equal sequences therefore give equal runs.
-/

namespace ChipEight

/-- A sequence of bytes and the number of those already taken. -/
structure Entropy where
  source : Nat → Byte
  taken : Nat

namespace Entropy

/-- The byte at the front. -/
def byte (entropy : Entropy) : Byte := entropy.source entropy.taken

/-- What remains after the front byte. -/
def rest (entropy : Entropy) : Entropy := { entropy with taken := entropy.taken + 1 }

/-- Bytes handed out in order, over and over; none at all stand for zeros. -/
def cycling (bytes : Array Byte) : Entropy :=
  ⟨fun index => bytes[index % bytes.size]?.getD 0, 0⟩

end Entropy
end ChipEight
