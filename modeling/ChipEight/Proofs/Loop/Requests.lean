import ChipEight.Proofs.Loop.Polls

/-!
# What a pass asks of the outside

The records among the requests of a pass are what the pass reports, in the same order. The machine moves
between two requests, but nothing that belongs to the surface does: whoever draws makes no request after
its word was recorded, and no cycle moves keys. So a pass that breaks down in a request leaves the screen
and the keys as it found them.
-/

namespace ChipEight

namespace Machine

variable {machine : Machine} {request : Request}

/-- Whether the cycle of a machine was over when some requests of its pass had been made. -/
def isDoneBy (machine : Machine) (made : List Request) : Bool :=
  machine.cycleRequests.length < made.length

/-- The screen and the keys of a machine are those of another. -/
def SameSurface (machine other : Machine) : Prop :=
  machine.screen = other.screen ∧ machine.keypad = other.keypad

/-! ## Requests of an instruction -/

/-- The records of writes are those of the ones that the font does not take. -/
theorem storeRequests_notices (machine : Machine) (writes : List (Address × Byte)) :
    (machine.storeRequests writes).filterMap Request.notice =
      writes.filterMap fun (address, byte) =>
        if Font.covers address then some (.ignoredWrite byte address) else none := by
  induction writes generalizing machine with
  | nil => rfl
  | cons first later inductionHypothesis =>
    obtain ⟨address, byte⟩ := first
    rw [storeRequests, List.filterMap_append, inductionHypothesis]
    cases covered : Font.covers address <;> simp [covered]

/-- Writes leave the screen and the keys alone. -/
theorem storeRequests_surface {writes : List (Address × Byte)}
    (made : request ∈ machine.storeRequests writes) : request.machine.SameSurface machine := by
  induction writes generalizing machine with
  | nil => simp [storeRequests] at made
  | cons first later inductionHypothesis =>
    rcases List.mem_append.mp made with here | behind
    · obtain ⟨-, rfl⟩ : _ ∧ request = ⟨machine, some (.ignoredWrite first.2 first.1)⟩ := by
        simpa using here
      exact ⟨rfl, rfl⟩
    · have same := inductionHypothesis behind
      exact ⟨same.1, same.2⟩

/-- The records of an instruction are what it reports. -/
theorem executeRequests_notices (machine : Machine) (instruction : Instruction) :
    (machine.executeRequests instruction).filterMap Request.notice =
      machine.executeNotices instruction := by
  cases instruction with
  | ret =>
    delta executeRequests executeNotices
    dsimp only
    cases machine.stack.pop? <;> rfl
  | call nnn =>
    delta executeRequests executeNotices
    dsimp only
    cases machine.stack.push? machine.pc <;> rfl
  | storeDecimal x => exact machine.storeRequests_notices _
  | storeRegisters x => exact machine.storeRequests_notices _
  | _ => rfl

/-- Until its last request an instruction leaves the screen and the keys alone. -/
theorem executeRequests_surface {instruction : Instruction}
    (made : request ∈ machine.executeRequests instruction) : request.machine.SameSurface machine := by
  cases instruction with
  | system nnn =>
    obtain rfl := List.mem_singleton.mp made
    exact ⟨rfl, rfl⟩
  | random x nn =>
    obtain rfl := List.mem_singleton.mp made
    exact ⟨rfl, rfl⟩
  | ret =>
    delta executeRequests at made
    dsimp only at made
    cases popped : machine.stack.pop? with
    | none => simp [popped] at made
    | some top =>
      obtain rfl : request = ⟨{ machine with stack := top.2 }, some (.returning top.1)⟩ := by
        simpa [popped] using made
      exact ⟨rfl, rfl⟩
  | call nnn =>
    delta executeRequests at made
    dsimp only at made
    cases pushed : machine.stack.push? machine.pc with
    | none => simp [pushed] at made
    | some stack =>
      obtain rfl : request = ⟨{ machine with stack }, some (.calling nnn machine.pc)⟩ := by
        simpa [pushed] using made
      exact ⟨rfl, rfl⟩
  | storeDecimal x => exact storeRequests_surface made
  | storeRegisters x => exact storeRequests_surface made
  | _ => nomatch made

/-! ## Requests of a cycle -/

/-- The records of a cycle are what it reports. -/
theorem cycleRequests_notices (machine : Machine) :
    machine.cycleRequests.filterMap Request.notice = machine.cycleNotices := by
  unfold cycleRequests cycleNotices
  cases machine.memory.word machine.pc with
  | error cause => rfl
  | ok word =>
    dsimp only
    cases Instruction.ofWord? word with
    | none => rfl
    | some instruction =>
      exact congrArg (Notice.executing machine.pc word instruction :: ·)
        ((machine.fetched word).executeRequests_notices instruction)

/-- Until its last request a cycle leaves the screen and the keys alone. -/
theorem cycleRequests_surface (made : request ∈ machine.cycleRequests) :
    request.machine.SameSurface machine := by
  unfold cycleRequests at made
  split at made
  · nomatch made
  · dsimp only at made
    split at made
    · obtain rfl := List.mem_singleton.mp made
      exact ⟨rfl, rfl⟩
    · rcases List.mem_cons.mp made with rfl | made
      · exact ⟨rfl, rfl⟩
      · have same := executeRequests_surface made
        exact ⟨same.1, same.2⟩

end Machine

namespace CpuLoop
open Machine

variable {loop : CpuLoop} {fired : Fired} {console : Console} {request : Request}

/-! ## Requests of a pass -/

/-- A pass that makes no cycle makes no request. -/
theorem requests_of_idle (idle : fired.cpu = false) : loop.requests fired console = [] := by
  simp [requests, idle]

/-- A pass that makes a cycle makes the requests of the cycle, and then its own. -/
theorem requests_of_due (due : fired.cpu = true) :
    loop.requests fired console = (console.machine.ticked fired).cycleRequests ++
      loop.ownRequests (console.machine.ticked fired).cycle.1 (console.machine.ticked fired).cycle.2 := by
  rw [requests, ticked_console]
  simp [due]

/-- A pass has at most one record of its own to make. -/
theorem length_ownRequests (loop : CpuLoop) (after : Machine) (answer : Except Fault Signal) :
    (loop.ownRequests after answer).length ≤ 1 := by
  cases answer with
  | error fault => exact Nat.le_refl 1
  | ok signal =>
    dsimp only [ownRequests]
    split <;> simp

/-- The records of a pass are what it reports. -/
theorem requests_notices (loop : CpuLoop) (fired : Fired) (console : Console) :
    (loop.requests fired console).filterMap Request.notice = (loop.act fired console).notices := by
  cases due : fired.cpu with
  | false => simp [requests_of_idle due, act, due]
  | true =>
    rw [requests_of_due due, List.filterMap_append, cycleRequests_notices, act, ticked_console]
    cases answered : (console.machine.ticked fired).cycle.2 with
    | error fault => simp [due, answered, Console.cycle, ownRequests]
    | ok signal =>
      simp only [due, answered, Console.cycle, ownRequests, if_true]
      split <;> rfl

/-- A pass makes a request of its own only where its cycle did not draw. -/
theorem undrawn_of_ownRequests {after : Machine} {answer : Except Fault Signal}
    (made : request ∈ loop.ownRequests after answer) :
    request.machine = after ∧ answer ≠ .ok .drawn := by
  cases answer with
  | error fault =>
    obtain rfl := List.mem_singleton.mp made
    exact ⟨rfl, nofun⟩
  | ok signal =>
    dsimp only [ownRequests] at made
    split at made
    case isTrue waits =>
      obtain rfl := List.mem_singleton.mp made
      refine ⟨rfl, fun drawn => ?_⟩
      obtain rfl := Except.ok.inj drawn
      simp at waits
    case isFalse => nomatch made

/-- In all requests of a pass the machine has the screen and the keys that the pass found. -/
theorem requests_surface (made : request ∈ loop.requests fired console) :
    request.machine.SameSurface console.machine := by
  have ticked : (console.machine.ticked fired).SameSurface console.machine := by
    unfold Machine.ticked
    split <;> exact ⟨rfl, rfl⟩
  cases due : fired.cpu with
  | false => simp [requests_of_idle due] at made
  | true =>
    rw [requests_of_due due] at made
    rcases List.mem_append.mp made with made | made
    · have same := cycleRequests_surface made
      exact ⟨same.1.trans ticked.1, same.2.trans ticked.2⟩
    · obtain ⟨rest, undrawn⟩ := undrawn_of_ownRequests made
      rw [rest]
      exact ⟨(cycle_screen rfl undrawn).trans ticked.1, (cycle_keypad _).trans ticked.2⟩

/-- The first requests of a pass are requests of its cycle, unless they are all that it makes. -/
theorem requests_prefix {front : List Request} (first : front <+: loop.requests fired console)
    (filled : front ≠ []) :
    fired.cpu = true ∧
      if (console.machine.ticked fired).isDoneBy front then front = loop.requests fired console
      else front <+: (console.machine.ticked fired).cycleRequests := by
  cases due : fired.cpu with
  | false => exact absurd (List.prefix_nil.mp (requests_of_idle due ▸ first)) filled
  | true =>
    refine ⟨rfl, ?_⟩
    have own := length_ownRequests loop (console.machine.ticked fired).cycle.1
      (console.machine.ticked fired).cycle.2
    rw [requests_of_due due] at first ⊢
    cases done : (console.machine.ticked fired).isDoneBy front with
    | true =>
      have long := of_decide_eq_true done
      exact first.eq_of_length_le (by rw [List.length_append]; omega)
    | false =>
      have short := Nat.not_lt.mp (of_decide_eq_false done)
      exact List.prefix_of_prefix_length_le first (List.prefix_append _ _) short

end CpuLoop
end ChipEight
