/-!
# Decimal numbers in text

A natural number is read from its decimal digits. A plus sign may stand before them, and
leading zeros are allowed; blanks, a minus sign and digits of other scripts are not. Numbers
of any size are read: a limit is a matter of the reader's caller.
-/

namespace ChipEight.Decimal

/-- The number that a sequence of digits stands for. There has to be one digit at least. -/
def ofDigits? (digits : List Char) : Option Nat :=
  if digits.isEmpty then none
  else if digits.all Char.isDigit then some (Nat.ofDigitChars 10 digits 0) else none

/-- Reads a number with or without a plus sign. -/
def read? : List Char → Option Nat
  | '+' :: digits => ofDigits? digits
  | digits => ofDigits? digits

/-- The digits of a number are read as that number. -/
theorem read?_toDigits (number : Nat) : read? (Nat.toDigits 10 number) = some number := by
  have digits : ∀ c ∈ Nat.toDigits 10 number, c.isDigit = true := fun _ member =>
    Nat.isDigit_of_mem_toDigits (by decide) (by decide) member
  have unsigned : read? (Nat.toDigits 10 number) = ofDigits? (Nat.toDigits 10 number) := by
    unfold read?
    split
    · rename_i rest same
      have sign : '+'.isDigit = true := digits '+' (same ▸ List.mem_cons_self)
      exact absurd sign (by decide)
    · rfl
  have some_digit : (Nat.toDigits 10 number).isEmpty = false := by
    simp [Nat.toDigits_ne_nil]
  rw [unsigned, ofDigits?, some_digit, List.all_eq_true.mpr digits]
  simp [Nat.ofDigitChars_ten_toDigits]

-- Leading zeros do not count, and a sign alone is no number.
example : read? ['0', '0', '7'] = some 7 ∧ read? ['+'] = none := ⟨rfl, rfl⟩

end ChipEight.Decimal
