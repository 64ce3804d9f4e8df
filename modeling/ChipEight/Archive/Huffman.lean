import ChipEight.Word

/-!
# Prefix codes

A prefix code gives every symbol in use a word of up to fifteen bits, so that no word is the
start of another one. A code is determined by the lengths of its words alone: shorter words
come before longer ones, and words of one length are numbered in the order of their symbols.

Not every list of lengths makes a code. The words of a complete code fill the room there is
exactly; the room that a word takes is halved by each of its bits. A single symbol can not fill
the room. Its word has one bit, and the other word of one bit is left unused.
-/

namespace ChipEight

/-- The symbols of a code by the length of their words, from one bit to the longest word. A code
without symbols has an empty group for words of one bit. -/
structure PrefixCode where
  groups : List (Array Nat)
  deriving DecidableEq, Repr

namespace PrefixCode

/-- The greatest length of a word, in bits. -/
def greatestLength : Nat := 15

/-- The code of a list of lengths, where symbols that are not in use have length zero. -/
def ofLengths (lengths : List Nat) : PrefixCode where
  groups := (List.range (lengths.foldl max 1)).map fun index =>
    (lengths.zipIdx.filterMap fun (length, symbol) =>
      if length = index + 1 then some symbol else none).toArray

/-- The count of symbols in use. -/
def size (code : PrefixCode) : Nat := code.groups.foldl (fun count group => count + group.size) 0

/-- The room the words of a list of groups take, where a word that is one bit longer than
those before the first group takes a half of `room`. -/
def roomOf : List (Array Nat) → (room : Nat) → Nat
  | [], _ => 0
  | group :: longer, room => group.size * (room / 2) + roomOf longer (room / 2)

/-- Whether the words fill the room exactly. -/
def isComplete (code : PrefixCode) : Bool :=
  roomOf code.groups (1 <<< greatestLength) == 1 <<< greatestLength

/-- Whether there is no word, or only one of one bit. -/
def isTrivial (code : PrefixCode) : Bool := code.groups.length == 1 && code.size ≤ 1

end PrefixCode
end ChipEight
