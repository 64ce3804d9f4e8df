import ChipEight.Proofs.Machine.Raw
import Mathlib.Data.List.FinRange

/-!
# Every access stays in range

A raw machine looks before every access. Started as the image of a machine it always finds
what it looks for: each of its operations answers, and answers with the image of what the
machine itself does. So the ranges the machine keeps by its types are kept by masks alone, and
no action in any order, failing cycles included, leads out of them.

Writes into the font are dropped one by one. From that the font survives every action, also
under several bytes that straddle the end of the memory.
-/

namespace ChipEight

/-- A mask is a remainder. -/
theorem mask_eq (number : Nat) : mask number = number % 4096 :=
  Nat.and_two_pow_sub_one_eq_mod number 12

/-- The address a number wraps to is its mask. -/
theorem mask_ofNat (number : Nat) : mask number = (Fin.ofNat 4096 number).val := mask_eq number

/-- Places counted from an address wrap like the address itself. -/
theorem ofNat_add_place (address : Address) (offset : Nat) :
    Fin.ofNat 4096 (address.val + offset) = address + Fin.ofNat 4096 offset := by
  apply Fin.ext
  simp [Fin.val_add]

/-- Masks land a move where the machine lands it. For a step back the wrap at 64 bits and the
mask agree, since 4096 divides the size of a 64-bit number. -/
theorem Move.land_eq (move : Move) (pc : Address) : move.land pc.val = (move.apply pc).val := by
  have bound : pc.val < 4096 := pc.isLt
  cases move with
  | next =>
    simp only [land, apply, mask_eq]
    omega
  | skip =>
    simp only [land, apply, mask_eq, Fin.val_add]
    rfl
  | jump target => exact mask_ofNat target
  | again =>
    simp only [land, apply, mask_eq, Fin.sub_def]
    have two : (2 : Address).val = 2 := rfl
    have size : UInt64.size = 2 ^ 64 := rfl
    rw [two, size]
    omega

namespace Machine

/-- The machine with another memory. -/
def setMemory (machine : Machine) (memory : Memory) : Machine := { machine with memory }

variable (machine : Machine)

/-- Only the memory set last counts. -/
@[simp]
theorem setMemory_setMemory (first second : Memory) :
    (machine.setMemory first).setMemory second = machine.setMemory second := rfl

/-- The memory that was set is the memory. -/
@[simp]
theorem setMemory_memory (memory : Memory) : (machine.setMemory memory).memory = memory := rfl

/-- Memory is apart from the registers. -/
@[simp]
theorem setMemory_register (memory : Memory) :
    (machine.setMemory memory).register = machine.register := rfl

/-- Memory is apart from the index register. -/
@[simp]
theorem setMemory_index (memory : Memory) : (machine.setMemory memory).index = machine.index := rfl

/-! ## Single accesses -/

/-- A register number below sixteen finds its register. -/
theorem register_found (register : Register) :
    machine.raw.register? register.val = some (machine.register register) := by
  simp [RawMachine.register?, raw, Machine.register]

/-- A register number below sixteen finds the register to store into. -/
theorem setRegister_found (register : Register) (byte : Byte) :
    machine.raw.setRegister? register.val byte = some (machine.setRegister register byte).raw := by
  simp [RawMachine.setRegister?, raw, setRegister]

/-- A masked address finds its byte. -/
theorem read_found (number : Nat) :
    machine.raw.read? number = some (machine.memory.read (Fin.ofNat 4096 number)) := by
  have masked : mask number = (Fin.ofNat 4096 number).val := mask_ofNat number
  generalize Fin.ofNat 4096 number = address at masked
  simp [RawMachine.read?, raw, Memory.read, masked]

/-- A masked address finds its place, unless the font keeps it. -/
theorem write_found (number : Nat) (byte : Byte) :
    machine.raw.write? number byte =
      some (machine.setMemory (machine.memory.write (Fin.ofNat 4096 number) byte)).raw := by
  have masked : mask number = (Fin.ofNat 4096 number).val := mask_ofNat number
  generalize Fin.ofNat 4096 number = address at masked
  by_cases inFont : address.val < 80
  · simp [RawMachine.write?, masked, Memory.write, Font.covers, inFont, setMemory]
  · simp [RawMachine.write?, masked, Memory.write, Font.covers, inFont, raw, setMemory]

/-- The lower digit of a byte finds its key. -/
theorem isDown_found (byte : Byte) :
    machine.raw.isDown? byte.toNat = some (machine.keypad.isDown (Key.ofByte byte)) := by
  have digit : byte.toNat % 16 = (Key.ofByte byte).val := rfl
  generalize Key.ofByte byte = key at digit
  simp [RawMachine.isDown?, raw, Keypad.isDown, digit]

/-- The first key found down among the raw keys is the lowest one. -/
theorem firstDown_found :
    machine.raw.keys.findIdx? id = machine.keypad.firstDown?.map Fin.val := by
  cases found : machine.keypad.firstDown? with
  | none =>
    have up : ∀ key : Key, machine.keypad.isDown key = false := by
      simpa [Keypad.firstDown?] using found
    rw [Option.map_none, Array.findIdx?_eq_none_iff]
    intro isDown member
    obtain ⟨place, inside, rfl⟩ := Array.mem_iff_getElem.mp member
    exact up ⟨place, by simpa [raw] using inside⟩
  | some key =>
    obtain ⟨down, place, inside, same, before⟩ := List.find?_eq_some_iff_getElem.mp found
    have first : place = key.val := by simpa using congrArg Fin.val same
    subst first
    rw [Option.map_some, Array.findIdx?_eq_some_iff_getElem]
    refine ⟨by simp [raw], down, ?_⟩
    intro earlier lower
    have up := before earlier lower
    simpa [raw, Keypad.isDown] using up

/-- The flag register is the last of the sixteen. -/
theorem setFlag_found (flag : Byte) :
    machine.raw.setRegister? 15 flag = some (machine.setRegister flagRegister flag).raw :=
  machine.setRegister_found flagRegister flag

/-! ## Several accesses in a row -/

/-- A result and its flag find their registers. -/
theorem setResult_found (x : Register) (result : Byte × Option Byte) :
    machine.raw.setResult? x.val result = some (machine.setResult x result).raw := by
  obtain ⟨byte, flag⟩ := result
  have stored := machine.setRegister_found x byte
  cases flag with
  | none => simp [RawMachine.setResult?, stored, setResult]
  | some flag => simp [RawMachine.setResult?, stored, setResult, setFlag_found]

/-- Every row of a sprite is found, also past the end of the memory. -/
theorem sprite_found (rows : Fin 16) :
    ((List.range rows.val).mapM fun offset => machine.raw.read? (machine.raw.index + offset)) =
      some (machine.sprite rows) := by
  have row (offset : Nat) : machine.raw.read? (machine.raw.index + offset) =
      some (machine.memory.read (machine.index + Fin.ofNat 4096 offset)) := by
    rw [read_found, ← ofNat_add_place]
    rfl
  simp only [row]
  exact List.mapM_pure

/-- Drawing finds its registers and its rows. -/
theorem drawSprite_found (x y : Register) (rows : Fin 16) :
    machine.raw.drawSprite? x.val y.val rows.val = some (machine.drawSprite x y rows).raw := by
  unfold RawMachine.drawSprite? drawSprite
  simp only [register_found, sprite_found, Option.bind_eq_bind, Option.bind_some]
  generalize drawn : machine.screen.draw (machine.register x).toNat (machine.register y).toNat
    (machine.sprite rows) = result
  have same : machine.raw.screen.draw (machine.register x).toNat (machine.register y).toNat
    (machine.sprite rows) = result := drawn
  rw [same]
  exact setFlag_found { machine with screen := result.1 } (Byte.ofFlag result.2)

/-- A write counted from the index register finds its place. -/
theorem write_place_found (offset : Nat) (byte : Byte) :
    machine.raw.write? (machine.index.val + offset) byte = some (machine.setMemory
      (machine.memory.write (machine.index + Fin.ofNat 4096 offset) byte)).raw := by
  rw [write_found, ofNat_add_place]

/-- The three digits find their places. -/
theorem storeDecimal_found (x : Register) :
    machine.raw.storeDecimal? x.val = some (machine.setMemory
      (machine.memory.writeAll (machine.stores (.storeDecimal x)))).raw := by
  have first := machine.write_place_found 0 (machine.register x / 100)
  have second (memory : Memory) :=
    (machine.setMemory memory).write_place_found 1 (machine.register x / 10 % 10)
  have third (memory : Memory) :=
    (machine.setMemory memory).write_place_found 2 (machine.register x % 10)
  have index : machine.raw.index = machine.index.val := rfl
  have start : machine.index + Fin.ofNat 4096 0 = machine.index := Fin.add_zero machine.index
  simp only [Nat.add_zero, start, setMemory_index, setMemory_memory, setMemory_setMemory]
    at first second third
  unfold RawMachine.storeDecimal?
  simp only [register_found, index, Option.bind_eq_bind, Option.bind_some, first, second, third]
  rfl

/-- The registers up to one of them, by their numbers. -/
theorem range_registers (x : Register) :
    List.range (x.val + 1) = ((List.finRange 16).filter (· ≤ x)).map Fin.val := by
  revert x
  decide

/-- Registers stored one after the other find their places. Earlier stores change the memory
only, so that each later one still finds the register it had from the start. -/
theorem stores_found (memory : Memory) (registers : List Register) :
    (registers.map Fin.val).foldlM
        (fun stored offset => do
          stored.write? (machine.raw.index + offset) (← stored.register? offset))
        (machine.setMemory memory).raw =
      some (machine.setMemory (memory.writeAll (registers.map fun register =>
        (machine.index + Fin.ofNat 4096 register.val, machine.register register)))).raw := by
  induction registers generalizing memory with
  | nil => rfl
  | cons register rest inductionHypothesis =>
    have found := (machine.setMemory memory).register_found register
    have written :=
      (machine.setMemory memory).write_place_found register.val (machine.register register)
    have index : machine.raw.index = machine.index.val := rfl
    simp only [setMemory_register, setMemory_index, setMemory_memory, setMemory_setMemory]
      at found written
    simp only [List.map_cons, List.foldlM_cons, found, index, Option.bind_eq_bind,
      Option.bind_some, written]
    exact inductionHypothesis _

/-- All registers that are stored find their places. -/
theorem storeRegisters_found (x : Register) :
    machine.raw.storeRegisters? x.val = some (machine.setMemory
      (machine.memory.writeAll (machine.stores (.storeRegisters x)))).raw := by
  unfold RawMachine.storeRegisters?
  rw [range_registers]
  exact machine.stores_found machine.memory _

/-- The registers below a number from memory, the others as they are. -/
def loadedBelow (count : Nat) : Vector Byte 16 :=
  Vector.ofFn fun register =>
    if register.val < count then machine.memory.read (machine.index + Fin.ofNat 4096 register.val)
    else machine.register register

/-- The byte in a register while the ones below `count` have been loaded. -/
theorem loadedBelow_getElem (count place : Nat) (inside : place < 16) :
    (machine.loadedBelow count)[place] =
      if place < count then machine.memory.read (machine.index + Fin.ofNat 4096 place)
      else machine.register ⟨place, inside⟩ :=
  Vector.getElem_ofFn inside

/-- One more register from memory is the register after the loaded ones. -/
theorem loadedBelow_succ (count : Nat) (bound : count < 16) :
    (machine.loadedBelow count).set count
        (machine.memory.read (machine.index + Fin.ofNat 4096 count)) bound =
      machine.loadedBelow (count + 1) := by
  apply Vector.ext
  intro place inside
  rw [loadedBelow_getElem]
  by_cases same : count = place
  · subst same
    rw [Vector.getElem_set_self, if_pos (Nat.lt_succ_self count)]
  · have below : place < count + 1 ↔ place < count := by omega
    rw [Vector.getElem_set_ne _ _ same, loadedBelow_getElem]
    simp only [below]

/-- Registers loaded one after the other find their places. After `count` of them exactly the
registers below `count` have been loaded; memory and index register stay, so that every read
finds what it would have found at the start. -/
theorem loads_found (count : Nat) (bound : count ≤ 16) :
    (List.range count).foldlM
        (fun loaded offset => do
          loaded.setRegister? offset (← loaded.read? (machine.raw.index + offset)))
        machine.raw =
      some { machine with registers := machine.loadedBelow count }.raw := by
  induction count with
  | zero =>
    have untouched : machine.loadedBelow 0 = machine.registers := by
      apply Vector.ext
      intro place inside
      simp [loadedBelow, Machine.register]
    rw [untouched]
    rfl
  | succ count inductionHypothesis =>
    have before := inductionHypothesis (Nat.le_of_succ_le bound)
    let loaded : Machine := { machine with registers := machine.loadedBelow count }
    let byte : Byte := machine.memory.read (machine.index + Fin.ofNat 4096 count)
    have read : loaded.raw.read? (machine.raw.index + count) = some byte := by
      have found := loaded.read_found (machine.index.val + count)
      rw [ofNat_add_place] at found
      exact found
    have stored : loaded.raw.setRegister? count byte =
        some { machine with registers := machine.loadedBelow (count + 1) }.raw := by
      rw [← machine.loadedBelow_succ count bound]
      exact loaded.setRegister_found ⟨count, bound⟩ byte
    rw [List.range_succ, List.foldlM_append, before]
    simp only [Option.bind_eq_bind, Option.bind_some, List.foldlM_cons, List.foldlM_nil]
    change ((loaded.raw.read? (machine.raw.index + count)).bind fun byte =>
      loaded.raw.setRegister? count byte).bind some = _
    rw [read, Option.bind_some, stored]
    rfl

/-- All registers that are loaded find their places. -/
theorem loadRegisters_found (x : Register) :
    machine.raw.loadRegisters? x.val =
      some { machine with registers := machine.loadedRegisters x }.raw := by
  have all : machine.loadedBelow (x.val + 1) = machine.loadedRegisters x := by
    apply Vector.ext
    intro place inside
    have upTo : place < x.val + 1 ↔ (⟨place, inside⟩ : Register) ≤ x := Nat.lt_succ_iff
    rw [loadedBelow_getElem, loadedRegisters, Vector.getElem_ofFn]
    simp only [upTo]
  rw [← all]
  exact machine.loads_found (x.val + 1) x.isLt

/-! ## Whole operations -/

/-- Masks move the counter of a machine where its types move it. -/
theorem step_found (move : Move) : machine.raw.step move = (machine.step move).raw := by
  have landed : move.land machine.raw.pc = (move.apply machine.pc).val := move.land_eq machine.pc
  simp only [RawMachine.step, landed]
  rfl

/-- The result of an instruction without its ranges. -/
def rawResult (result : Machine × Signal) : RawMachine × Signal := (result.1.raw, result.2)

/-- A finished instruction leaves the image of what the machine leaves. -/
theorem finish_found (move : Move) :
    machine.raw.finish move = some ((machine.finish move).map rawResult) := by
  simp only [RawMachine.finish, step_found]
  rfl

/-- Every instruction finds what it accesses and does to the image of a machine what it does
to the machine.

Each case replaces the accesses of the instruction by what they find; what is left is a
finished instruction. Masks appear where an instruction forms an address. -/
theorem execute_found (instruction : Instruction) :
    machine.raw.execute? instruction = some ((machine.execute instruction).map rawResult) := by
  cases instruction with
  | system nnn => exact machine.finish_found .next
  | clearScreen =>
    have cleared := step_found { machine with screen := .blank } .next
    exact congrArg (fun after => some (Except.ok (after, Signal.drawn))) cleared
  | ret =>
    cases popped : machine.stack.pop? with
    | none =>
      have vacant : machine.raw.stack = [] := by simp [raw, CallStack.pop?_none popped]
      simp only [RawMachine.execute?, vacant, execute, popped]
      rfl
    | some result =>
      have entries : machine.raw.stack = result.1.val :: result.2.entries.map Fin.val := by
        simp [raw, CallStack.pop?_some popped]
      simp only [RawMachine.execute?, entries, execute, popped]
      exact finish_found { machine with stack := result.2 } (.jump result.1.val)
  | jump nnn => exact machine.finish_found (.jump nnn.val)
  | call nnn =>
    have depth : machine.raw.stack.length = machine.stack.entries.length := by simp [raw]
    cases pushed : machine.stack.push? machine.pc with
    | none =>
      have full : ¬ machine.raw.stack.length < 16 := by
        rw [depth, CallStack.push?_none pushed]
        decide
      simp only [RawMachine.execute?, full, if_false, execute, pushed]
      rfl
    | some stack =>
      obtain ⟨room, entries⟩ := CallStack.push?_some pushed
      have entered : machine.raw.pc :: machine.raw.stack = stack.entries.map Fin.val := by
        simp [raw, entries]
      simp only [RawMachine.execute?, depth, room, if_true, entered, execute, pushed]
      exact finish_found { machine with stack } (.jump nnn.val)
  | skipEqual x nn =>
    simp only [RawMachine.execute?, register_found, Option.bind_eq_bind, Option.bind_some]
    exact machine.finish_found _
  | skipNotEqual x nn =>
    simp only [RawMachine.execute?, register_found, Option.bind_eq_bind, Option.bind_some]
    exact machine.finish_found _
  | skipSame x y =>
    simp only [RawMachine.execute?, register_found, Option.bind_eq_bind, Option.bind_some]
    exact machine.finish_found _
  | load x nn =>
    simp only [RawMachine.execute?, setRegister_found, Option.bind_eq_bind, Option.bind_some]
    exact finish_found _ .next
  | add x nn =>
    simp only [RawMachine.execute?, register_found, setRegister_found, Option.bind_eq_bind,
      Option.bind_some]
    exact finish_found _ .next
  | arithmetic operation x y =>
    simp only [RawMachine.execute?, register_found, setResult_found, Option.bind_eq_bind,
      Option.bind_some]
    exact finish_found _ .next
  | skipDifferent x y =>
    simp only [RawMachine.execute?, register_found, Option.bind_eq_bind, Option.bind_some]
    exact machine.finish_found _
  | loadIndex nnn => exact finish_found { machine with index := nnn } .next
  | jumpOffset nnn =>
    have found : machine.raw.register? 0 = some (machine.register 0) := machine.register_found 0
    simp only [RawMachine.execute?, found, Option.bind_eq_bind, Option.bind_some]
    exact machine.finish_found _
  | random x nn =>
    let taken : Machine := { machine with entropy := machine.entropy.rest }
    have stored := taken.setRegister_found x (nn &&& machine.entropy.byte)
    calc
      machine.raw.execute? (.random x nn) =
          (taken.raw.setRegister? x.val (nn &&& machine.entropy.byte)).bind (·.finish .next) := rfl
      _ = (taken.setRegister x (nn &&& machine.entropy.byte)).raw.finish .next := by
        rw [stored, Option.bind_some]
      _ = _ := finish_found _ .next
  | draw x y n =>
    simp only [RawMachine.execute?, drawSprite_found, Option.bind_eq_bind, Option.bind_some,
      step_found]
    rfl
  | skipDown x =>
    simp only [RawMachine.execute?, register_found, isDown_found, Option.bind_eq_bind,
      Option.bind_some]
    exact machine.finish_found _
  | skipUp x =>
    simp only [RawMachine.execute?, register_found, isDown_found, Option.bind_eq_bind,
      Option.bind_some]
    exact machine.finish_found _
  | getDelay x =>
    have delay : machine.raw.timers = machine.timers := rfl
    simp only [RawMachine.execute?, delay, setRegister_found, Option.bind_eq_bind, Option.bind_some]
    exact finish_found _ .next
  | awaitKey x =>
    have first := machine.firstDown_found
    cases down : machine.keypad.firstDown? with
    | none =>
      rw [down, Option.map_none] at first
      simp only [RawMachine.execute?, first, execute, down, step_found]
      rfl
    | some key =>
      rw [down, Option.map_some] at first
      simp only [RawMachine.execute?, first, execute, down, setRegister_found, Option.bind_eq_bind,
        Option.bind_some]
      exact finish_found _ .next
  | setDelay x =>
    simp only [RawMachine.execute?, register_found, Option.bind_eq_bind, Option.bind_some]
    exact finish_found { machine with timers.delay := .ofByte (machine.register x) } .next
  | setSound x =>
    simp only [RawMachine.execute?, register_found, Option.bind_eq_bind, Option.bind_some]
    exact finish_found { machine with timers.sound := .ofByte (machine.register x) } .next
  | addIndex x =>
    have moved : mask (machine.raw.index + (machine.register x).toNat) =
        (machine.index + Address.ofByte (machine.register x)).val := by
      rw [mask_ofNat, Address.ofByte, ← ofNat_add_place]
      rfl
    simp only [RawMachine.execute?, register_found, Option.bind_eq_bind, Option.bind_some, moved]
    exact finish_found
      { machine with index := machine.index + Address.ofByte (machine.register x) } .next
  | glyph x =>
    simp only [RawMachine.execute?, register_found, Option.bind_eq_bind, Option.bind_some,
      mask_ofNat]
    exact finish_found { machine with index := Font.glyphAddress (machine.register x) } .next
  | storeDecimal x =>
    simp only [RawMachine.execute?, storeDecimal_found, Option.bind_eq_bind, Option.bind_some]
    exact finish_found _ .next
  | storeRegisters x =>
    simp only [RawMachine.execute?, storeRegisters_found, Option.bind_eq_bind, Option.bind_some]
    exact finish_found _ .next
  | loadRegisters x =>
    simp only [RawMachine.execute?, loadRegisters_found, Option.bind_eq_bind, Option.bind_some]
    exact finish_found _ .next

/-- A fetched word is passed on the image as on the machine. -/
theorem fetched_found (word : Word) :
    { machine.raw with opcode := word, pc := mask (machine.raw.pc + 2) } =
      (machine.fetched word).raw := by
  have passed : mask (machine.raw.pc + 2) = (machine.pc + 2).val := Move.skip.land_eq machine.pc
  rw [passed]
  rfl

/-- A cycle finds what it accesses, and gives the same answer. -/
theorem cycle_found : machine.raw.cycle? = some (machine.cycle.1.raw, machine.cycle.2) := by
  have read : Word.read machine.raw.memory machine.raw.pc = machine.memory.word machine.pc := rfl
  unfold RawMachine.cycle? cycle
  rw [read]
  cases machine.memory.word machine.pc with
  | error cause => rfl
  | ok word =>
    simp only [fetched_found, execute_found]
    cases Instruction.ofWord? word with
    | none => rfl
    | some instruction =>
      cases done : (machine.fetched word).execute instruction with
      | error fault => simp [done, Except.map]
      | ok result => simp [done, Except.map, rawResult]

/-- Every action finds what it accesses. -/
theorem act_found (action : Action) : machine.raw.act? action = some (machine.act action).raw := by
  cases action with
  | cycle => simp [RawMachine.act?, act, cycle_found]
  | execute instruction =>
    simp only [RawMachine.act?, act, execute_found]
    cases machine.execute instruction with
    | error fault => rfl
    | ok result => rfl
  | step move => exact congrArg some (machine.step_found move)
  | tick => rfl
  | setKey key isDown => simp [RawMachine.act?, act, RawMachine.setKey?, raw, setKey, Keypad.set]
  | setKeypad keypad => rfl

/-- Every run of actions finds what it accesses on the way. -/
theorem run_found (actions : List Action) :
    machine.raw.run? actions = some (machine.run actions).raw := by
  induction actions generalizing machine with
  | nil => rfl
  | cons action rest inductionHypothesis =>
    have later := inductionHypothesis (machine.act action)
    simpa [RawMachine.run?, act_found, run] using later

end Machine

/-! ## The font -/

/-- The font stands at the start of the memory, byte by byte. -/
def Memory.HasFont (memory : Memory) : Prop :=
  ∀ (address : Nat) (inFont : address < 80), memory.cells[address] = Font.bytes[address]

/-- A freshly loaded memory has the font, whatever the program. -/
theorem Memory.load_font (program : Array Byte) : (Memory.load program).HasFont := by
  intro address inFont
  simp [Memory.load, Memory.initialByte, inFont]

/-- No single write reaches the font. -/
theorem Memory.write_font {memory : Memory} (font : memory.HasFont) (place : Address)
    (byte : Byte) : (memory.write place byte).HasFont := by
  intro address inFont
  by_cases covered : place.val < 80
  · simpa [Memory.write, Font.covers, covered] using font address inFont
  · have apart : place.val ≠ address := by omega
    simpa [Memory.write, Font.covers, covered, Vector.getElem_set_ne _ _ apart] using
      font address inFont

/-- No sequence of writes reaches the font. -/
theorem Memory.writeAll_font {memory : Memory} (font : memory.HasFont)
    (writes : List (Address × Byte)) : (memory.writeAll writes).HasFont := by
  induction writes generalizing memory with
  | nil => exact font
  | cons write rest inductionHypothesis =>
    exact inductionHypothesis (Memory.write_font font write.1 write.2)

namespace Machine

/-- An instruction that succeeds keeps the font. -/
theorem execute_font {machine after : Machine} {instruction : Instruction} {signal : Signal}
    (font : machine.memory.HasFont) (done : machine.execute instruction = .ok (after, signal)) :
    after.memory.HasFont := by
  rw [(execute_footprint done).memory]
  exact Memory.writeAll_font font _

/-- Every action keeps the font; a cycle does so however it ends. -/
theorem act_font {machine : Machine} (font : machine.memory.HasFont) (action : Action) :
    (machine.act action).memory.HasFont := by
  cases action with
  | cycle =>
    cases ran : machine.cycle with
    | mk after answer =>
      have same : machine.act .cycle = after := congrArg Prod.fst ran
      rw [same]
      cases cycle_end ran with
      | unreadable cause unread => exact font
      | passedOver word read unknown => exact font
      | failed word instruction fault read known refused => exact font
      | executed word instruction after signal read known done =>
        have fetched : (machine.fetched word).memory.HasFont := font
        exact execute_font fetched done
  | execute instruction =>
    cases done : machine.execute instruction with
    | error fault => simpa [act, done] using font
    | ok result => simpa [act, done] using execute_font font done
  | step move => exact font
  | tick => exact font
  | setKey key isDown => exact font
  | setKeypad keypad => exact font

/-- The font survives every run. -/
theorem run_font {machine : Machine} (font : machine.memory.HasFont) (actions : List Action) :
    (machine.run actions).memory.HasFont := by
  induction actions generalizing machine with
  | nil => exact font
  | cons action rest inductionHypothesis => exact inductionHypothesis (act_font font action)

end Machine

/-! ## The invariant -/

/-- What holds of a raw machine all of whose accesses stay in range. -/
structure RawMachine.InRange (machine : RawMachine) : Prop where
  pc : machine.pc < 4096
  index : machine.index < 4096
  depth : machine.stack.length ≤ 16
  returns : ∀ address ∈ machine.stack, address < 4096
  memory : machine.memory.size = 4096
  registers : machine.registers.size = 16
  keys : machine.keys.size = 16
  font : ∀ (address : Nat) (inFont : address < 80),
    machine.memory[address]? = some Font.bytes[address]

/-- The image of a machine with its font is in range. -/
theorem Machine.raw_in_range {machine : Machine} (font : machine.memory.HasFont) :
    machine.raw.InRange where
  pc := machine.pc.isLt
  index := machine.index.isLt
  depth := by simpa [Machine.raw] using machine.stack.length_le
  returns := by
    intro address member
    obtain ⟨place, _, rfl⟩ := List.mem_map.mp member
    exact place.isLt
  memory := machine.memory.cells.size_toArray
  registers := machine.registers.size_toArray
  keys := machine.keypad.down.size_toArray
  font := by
    intro address inFont
    have inside : address < 4096 := by omega
    simp [Machine.raw, ← font address inFont, inside]

/-- From every loaded program, every sequence of actions finds all it accesses and leads to a
machine in range, which is the image of the machine the same actions lead to.

Proof: the image of a machine does what the machine does, so that only the ranges of an image
are left, which the types of the machine give, and the font, which every action keeps. -/
theorem reachable_in_range (cartridge : Cartridge) (entropy : Entropy) (actions : List Action) :
    ∃ after : RawMachine,
      (Machine.boot cartridge entropy).raw.run? actions = some after ∧
      after = ((Machine.boot cartridge entropy).run actions).raw ∧
      after.InRange := by
  have loaded : (Machine.boot cartridge entropy).memory.HasFont := Memory.load_font cartridge.data
  have font := Machine.run_font loaded actions
  exact ⟨_, Machine.run_found _ actions, rfl, Machine.raw_in_range font⟩

end ChipEight
