import ChipEight.Word

/-!
# The call stack

Return addresses, the latest first. The stack holds sixteen; both ways to misuse it answer
`none`, and the machine decides what that means.
-/

namespace ChipEight

/-- At most sixteen return addresses, the latest one first. -/
structure CallStack where
  entries : List Address
  length_le : entries.length ≤ 16
  deriving DecidableEq

namespace CallStack

/-- A stack is its addresses. -/
theorem eq_of_entries {stack other : CallStack} (same : stack.entries = other.entries) :
    stack = other := by
  obtain ⟨entries, bound⟩ := stack
  obtain rfl : entries = other.entries := same
  rfl

/-- No call is pending. -/
def empty : CallStack := ⟨[], by decide⟩

/-- The number of pending calls. -/
def depth (stack : CallStack) : Nat := stack.entries.length

/-- A full stack takes no further address. -/
def push? (stack : CallStack) (address : Address) : Option CallStack :=
  if room : stack.entries.length < 16 then some ⟨address :: stack.entries, room⟩ else none

/-- A push that is taken adds its address to a stack with room. -/
theorem push?_some {stack after : CallStack} {address : Address}
    (pushed : stack.push? address = some after) :
    stack.entries.length < 16 ∧ after.entries = address :: stack.entries := by
  by_cases room : stack.entries.length < 16
  · simp only [push?, room, dif_pos, Option.some.injEq] at pushed
    exact ⟨room, pushed ▸ rfl⟩
  · simp [push?, room] at pushed

/-- A push that is not taken finds sixteen addresses. -/
theorem push?_none {stack : CallStack} {address : Address} (full : stack.push? address = none) :
    stack.entries.length = 16 := by
  have bound : stack.entries.length ≤ 16 := stack.length_le
  by_cases room : stack.entries.length < 16
  · simp [push?, room] at full
  · omega

/-- The latest address and the rest. An empty stack has none. -/
def pop? (stack : CallStack) : Option (Address × CallStack) :=
  match stack with
  | ⟨[], _⟩ => none
  | ⟨address :: rest, length_le⟩ => some (address, ⟨rest, Nat.le_of_succ_le length_le⟩)

/-- A pop takes the latest address off. -/
theorem pop?_some {stack rest : CallStack} {address : Address}
    (popped : stack.pop? = some (address, rest)) : stack.entries = address :: rest.entries := by
  obtain ⟨entries, bound⟩ := stack
  cases entries with
  | nil => simp [pop?] at popped
  | cons latest earlier =>
    simp only [pop?, Option.some.injEq, Prod.mk.injEq] at popped
    obtain ⟨rfl, rfl⟩ := popped
    rfl

/-- Only an empty stack has nothing to pop. -/
theorem pop?_none {stack : CallStack} (vacant : stack.pop? = none) : stack.entries = [] := by
  obtain ⟨entries, bound⟩ := stack
  cases entries with
  | nil => rfl
  | cons latest earlier => simp [pop?] at vacant

/-- Pending return addresses in the order they were pushed. -/
def oldestFirst (stack : CallStack) : List Address := stack.entries.reverse

end CallStack
end ChipEight
