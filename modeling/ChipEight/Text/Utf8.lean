import ChipEight.Word

/-!
# Reading text from bytes

Text that is stored in bytes may be damaged. Reading it never fails: every longest start of
a character that is not continued as it has to be is read as one replacement character, and
so is every byte that starts no character. Reading goes on with the byte that did not fit.

The first byte of a character determines the ranges that the other bytes have to lie in. The
ranges leave out longer spellings of small numbers, the surrogates and what lies beyond the
last character.
-/

namespace ChipEight.Utf8

/-- Stands for what can not be read. -/
def replacement : Char := '\uFFFD'

/-- The range of a byte that continues a character and is not restricted further. -/
def anyTail : Nat × Nat := (0x80, 0xBF)

/-- The part of the number that the first byte of a character holds, and the ranges of the
bytes that have to follow it. -/
def opening? (first : Nat) : Option (Nat × List (Nat × Nat)) :=
  if first < 0x80 then some (first, [])
  else if first < 0xC2 then none
  else if first < 0xE0 then some (first - 0xC0, [anyTail])
  else if first = 0xE0 then some (0, [(0xA0, 0xBF), anyTail])
  else if first = 0xED then some (0xD, [(0x80, 0x9F), anyTail])
  else if first < 0xF0 then some (first - 0xE0, [anyTail, anyTail])
  else if first = 0xF0 then some (0, [(0x90, 0xBF), anyTail, anyTail])
  else if first < 0xF4 then some (first - 0xF0, [anyTail, anyTail, anyTail])
  else if first = 0xF4 then some (4, [(0x80, 0x8F), anyTail, anyTail])
  else none

/-- Reads the bytes that continue a character, as far as they fit, and answers the bytes
that are left. Every byte holds six bits of the number. -/
def continueWith : List (Nat × Nat) → Nat → List Byte → Option Nat × List Byte
  | [], number, rest => (some number, rest)
  | _ :: _, _, [] => (none, [])
  | (least, most) :: ranges, number, byte :: rest =>
    if least ≤ byte.toNat ∧ byte.toNat ≤ most then
      continueWith ranges (number * 64 + (byte.toNat - 0x80)) rest
    else (none, byte :: rest)

theorem length_continueWith_le (ranges : List (Nat × Nat)) (number : Nat) (bytes : List Byte) :
    (continueWith ranges number bytes).2.length ≤ bytes.length := by
  fun_induction continueWith ranges number bytes with
  | case1 => simp
  | case2 => simp
  | case3 _ _ _ _ _ _ _ shorter => simp only [List.length_cons]; omega
  | case4 => simp

/-- The character of a byte and the bytes after it, and what is left of these. -/
def next (first : Byte) (rest : List Byte) : Char × List Byte :=
  match opening? first.toNat with
  | none => (replacement, rest)
  | some (number, ranges) =>
    match continueWith ranges number rest with
    | (some number, rest) => (Char.ofNat number, rest)
    | (none, rest) => (replacement, rest)

theorem length_next_le (first : Byte) (rest : List Byte) :
    (next first rest).2.length ≤ rest.length := by
  unfold next
  split
  · simp
  · rename_i number ranges _
    have shorter := length_continueWith_le ranges number rest
    split <;> simp_all

/-- The characters of a sequence of bytes. -/
def characters : List Byte → List Char
  | [] => []
  | first :: rest =>
    have := length_next_le first rest
    (next first rest).1 :: characters (next first rest).2
termination_by bytes => bytes.length
decreasing_by simp only [List.length_cons]; omega

/-- The text of a sequence of bytes. -/
def text (bytes : List Byte) : String := String.ofList (characters bytes)

end ChipEight.Utf8
