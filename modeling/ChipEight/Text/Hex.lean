/-!
# Hexadecimal text

Words, addresses and bytes are written in upper case hexadecimal with a fixed count of
digits, so that every number of a column has the same width. The count is part of the
request: it is four for words and addresses, two for a byte in a message and one for a key.

Numbers that need more digits than asked for are outside this format; only their lowest
digits are written.
-/

namespace ChipEight.Hex

/-- A digit above nine is a capital letter. -/
def digit (value : Fin 16) : Char :=
  if value.val < 10 then Char.ofNat (48 + value.val) else Char.ofNat (55 + value.val)

/-- The lowest `count` digits of a number, the most significant one first. -/
def digits : (count number : Nat) → List Char
  | 0, _ => []
  | count + 1, number => digits count (number / 16) ++ [digit (Fin.ofNat 16 number)]

/-- Every number carries the mark `0x` in front of its digits. -/
def text (count number : Nat) : String :=
  "0x" ++ String.ofList (digits count number)

theorem length_digits (count number : Nat) : (digits count number).length = count := by
  induction count generalizing number with
  | zero => rfl
  | succ count induction => simp [digits, induction]

end ChipEight.Hex
