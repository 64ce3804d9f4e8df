import ChipEight.Proofs.Machine.Frame
import ChipEight.Proofs.Machine.Range

/-!
# Registers through the memory

Three instructions move bytes between the registers and the memory behind the index register. Each
address is counted around the end of the memory for itself, and each byte that would go into the
font is dropped for itself. So a window of addresses may start before the end of the memory, run
through the font and leave it again, and registers that are stored and loaded back come back as
they were, except for those whose place lies in the font.

None of these instructions moves the index register.
-/

namespace ChipEight

namespace Memory

/-- A byte that is written outside of the font is found at its address. -/
theorem read_write_self {memory : Memory} {place : Address} (byte : Byte)
    (uncovered : Font.covers place = false) : (memory.write place byte).read place = byte := by
  rw [write, uncovered]
  exact Vector.getElem_set_self place.isLt

/-- Of several writes to different addresses each is found at its address. -/
theorem read_writeAll_of_mem {memory : Memory} {writes : List (Address × Byte)} {place : Address}
    {byte : Byte} (apart : (writes.map Prod.fst).Nodup) (written : (place, byte) ∈ writes)
    (uncovered : Font.covers place = false) : (memory.writeAll writes).read place = byte := by
  induction writes generalizing memory with
  | nil => nomatch written
  | cons write later inductionHypothesis =>
    obtain ⟨fresh, apartLater⟩ := List.nodup_cons.mp apart
    rcases List.mem_cons.mp written with rfl | writtenLater
    · -- the later writes go elsewhere
      calc
        (memory.writeAll ((place, byte) :: later)).read place =
            ((memory.write place byte).writeAll later).read place := rfl
        _ = (memory.write place byte).read place := read_writeAll (.inl fresh)
        _ = byte := read_write_self byte uncovered
    · exact inductionHypothesis apartLater writtenLater

/-- A number that wraps to an address of the font finds a byte of the font. -/
theorem HasFont.read {memory : Memory} (font : memory.HasFont) {place : Nat}
    (inFont : place % 4096 < 80) :
    memory.read (Fin.ofNat 4096 place) = Font.bytes[place % 4096] :=
  font (place % 4096) inFont

end Memory

namespace Machine

/-- What is left after `V0` to `VX` were stored from the index register on. -/
structure StoredUpTo (machine : Machine) (x : Register) (after : Machine) : Prop where
  /-- A byte in the window and outside of the font is the register as far from `V0` as the byte is
  from the index register. -/
  stored : ∀ place : Address, 80 ≤ place.val → (place - machine.index).val ≤ x.val →
    after.memory.read place = machine.register (Fin.ofNat 16 (place - machine.index).val)
  /-- Every other byte is kept. -/
  kept : ∀ place : Address, place.val < 80 ∨ x.val < (place - machine.index).val →
    after.memory.read place = machine.memory.read place
  registers : after.registers = machine.registers
  index : after.index = machine.index

/-- What is left after `V0` to `VX` were loaded from the index register on. -/
structure LoadedUpTo (machine : Machine) (x : Register) (after : Machine) : Prop where
  loaded : ∀ number ≤ x, after.register number =
    machine.memory.read (Fin.ofNat 4096 (machine.index.val + number.val))
  kept : ∀ number, x < number → after.register number = machine.register number
  memory : after.memory = machine.memory
  index : after.index = machine.index

/-- The three decimal digits of a byte and their places, the highest first. -/
def decimalDigits (byte : Byte) : List (Nat × Byte) :=
  [(0, byte / 100), (1, byte / 10 % 10), (2, byte % 10)]

/-- What is left after the decimal digits of `VX` were stored from the index register on. -/
structure StoredDecimal (machine : Machine) (x : Register) (after : Machine) : Prop where
  /-- Each digit is found at its place, unless this lies in the font. -/
  stored : ∀ offset digit, (offset, digit) ∈ decimalDigits (machine.register x) →
    80 ≤ (machine.index.val + offset) % 4096 →
    after.memory.read (Fin.ofNat 4096 (machine.index.val + offset)) = digit
  registers : after.registers = machine.registers
  index : after.index = machine.index

variable {machine after : Machine} {action : Action} {x : Register}

/-- Different distances from an address are different places. -/
theorem distance_injective (address : Address) {offset other : Nat} (small : offset < 4096)
    (smallToo : other < 4096)
    (same : address + Fin.ofNat 4096 offset = address + Fin.ofNat 4096 other) : offset = other := by
  rw [← distance_ofNat address small, same, distance_ofNat address smallToo]

/-- A place is as far from an address as its distance says. -/
theorem add_distance (address place : Address) :
    address + Fin.ofNat 4096 (place - address).val = place := by
  have bound : place.val < 4096 := place.isLt
  have below : address.val < 4096 := address.isLt
  apply Fin.ext
  simp only [Fin.val_add, Fin.val_ofNat, Fin.sub_def]
  omega

/-! ## Storing -/

/-- The registers are stored at different addresses. -/
theorem storeRegisters_apart (machine : Machine) (x : Register) :
    ((machine.stores (.storeRegisters x)).map Prod.fst).Nodup := by
  rw [stores, List.map_map]
  refine List.Nodup.map_on ?_ ((List.nodup_finRange 16).filter _)
  intro number _ other _ same
  exact Fin.ext (distance_injective machine.index (by omega) (by omega) same)

/-- The digits are stored at their places, counted from the index register. -/
theorem stores_storeDecimal (machine : Machine) (x : Register) :
    machine.stores (.storeDecimal x) = (decimalDigits (machine.register x)).map fun place =>
      (machine.index + Fin.ofNat 4096 place.1, place.2) := by
  have first : machine.index + Fin.ofNat 4096 0 = machine.index := Fin.add_zero machine.index
  simp only [decimalDigits, List.map_cons, List.map_nil, first]
  rfl

/-- The digits are stored at different addresses. -/
theorem storeDecimal_apart (machine : Machine) (x : Register) :
    ((machine.stores (.storeDecimal x)).map Prod.fst).Nodup := by
  have addresses : (machine.stores (.storeDecimal x)).map Prod.fst =
      (List.range 3).map fun offset => machine.index + Fin.ofNat 4096 offset := by
    rw [stores_storeDecimal, List.map_map]
    rfl
  rw [addresses]
  refine List.Nodup.map_on ?_ List.nodup_range
  intro offset inside other insideToo same
  have small : offset < 3 := List.mem_range.mp inside
  have smallToo : other < 3 := List.mem_range.mp insideToo
  exact distance_injective machine.index (by omega) (by omega) same

/-- Executing `FX55` stores the registers up to `VX`. -/
theorem Executes.storedUpTo (executes : machine.Executes (Instruction.byteWord 0xF x 0x55) action) :
    machine.StoredUpTo x (machine.act action) := by
  obtain ⟨pc, opcode, move, same⟩ :=
    executes.act_eq (Instruction.ofWord?_deviceWord x 0x55) fun _ => ⟨_, rfl⟩
  have memory : (machine.act action).memory =
      machine.memory.writeAll (machine.stores (.storeRegisters x)) := same ▸ rfl
  refine ⟨?_, ?_, same ▸ rfl, same ▸ rfl⟩
  · intro place outside near
    have here := add_distance machine.index place
    generalize (place - machine.index).val = offset at near here ⊢
    have small : offset < 16 := by omega
    have number : Fin.ofNat 16 offset = ⟨offset, small⟩ := Fin.ext (Nat.mod_eq_of_lt small)
    have written : (place, machine.register (Fin.ofNat 16 offset)) ∈
        machine.stores (.storeRegisters x) := by
      refine List.mem_map.mpr ⟨⟨offset, small⟩, ?_, by rw [number, here]⟩
      exact List.mem_filter.mpr ⟨List.mem_finRange _, decide_eq_true near⟩
    rw [memory]
    exact Memory.read_writeAll_of_mem (machine.storeRegisters_apart x) written
      (decide_eq_false (Nat.not_lt.mpr outside))
  · intro place beyond
    rw [memory]
    refine read_stored ?_
    change (!decide (place.val < 80) && decide ((place - machine.index).val ≤ x.val)) = false
    rcases beyond with covered | far
    · rw [decide_eq_true covered]
      rfl
    · rw [decide_eq_false (Nat.not_le.mpr far), Bool.and_false]

/-- Executing `FX33` stores the digits of `VX`. -/
theorem Executes.storedDecimal
    (executes : machine.Executes (Instruction.byteWord 0xF x 0x33) action) :
    machine.StoredDecimal x (machine.act action) := by
  obtain ⟨pc, opcode, move, same⟩ :=
    executes.act_eq (Instruction.ofWord?_deviceWord x 0x33) fun _ => ⟨_, rfl⟩
  have memory : (machine.act action).memory =
      machine.memory.writeAll (machine.stores (.storeDecimal x)) := same ▸ rfl
  refine ⟨?_, same ▸ rfl, same ▸ rfl⟩
  intro offset digit member outside
  have written : (Fin.ofNat 4096 (machine.index.val + offset), digit) ∈
      machine.stores (.storeDecimal x) := by
    rw [stores_storeDecimal, ofNat_add_place]
    exact List.mem_map.mpr ⟨(offset, digit), member, rfl⟩
  rw [memory]
  exact Memory.read_writeAll_of_mem (machine.storeDecimal_apart x) written
    (decide_eq_false (Nat.not_lt.mpr outside))

/-! ## Loading -/

/-- Loading changes registers only: those up to `VX` become bytes of the memory. -/
theorem changed_loadRegisters (machine : Machine) (x : Register) :
    ∃ registers, machine.changed (.loadRegisters x) = { machine with registers } ∧
      (∀ number, number ≤ x → ({ machine with registers } : Machine).register number =
        machine.memory.read (machine.index + Fin.ofNat 4096 number.val)) ∧
      ∀ number, x < number →
        ({ machine with registers } : Machine).register number = machine.register number := by
  refine ⟨machine.loadedRegisters x, rfl, fun number upTo => ?_, fun number beyond => ?_⟩
  · rw [register, loadedRegisters, Fin.getElem_fin, Vector.getElem_ofFn]
    exact if_pos upTo
  · rw [register, loadedRegisters, Fin.getElem_fin, Vector.getElem_ofFn]
    exact if_neg (Fin.not_le.mpr beyond)

/-- Executing `FX65` loads the registers up to `VX`. -/
theorem Executes.loadedUpTo (executes : machine.Executes (Instruction.byteWord 0xF x 0x65) action) :
    machine.LoadedUpTo x (machine.act action) := by
  obtain ⟨pc, opcode, move, same⟩ :=
    executes.act_eq (Instruction.ofWord?_deviceWord x 0x65) fun _ => ⟨_, rfl⟩
  obtain ⟨registers, changes, loaded, kept⟩ := changed_loadRegisters { machine with pc, opcode } x
  rw [changes] at same
  rw [same]
  refine ⟨?_, kept, rfl, rfl⟩
  intro number upTo
  rw [ofNat_add_place]
  exact loaded number upTo

/-! ## Round trips -/

/-- Registers that are stored and loaded back are what they were, except for those whose place lies
in the font. -/
theorem StoredUpTo.loadedBack {stored : Machine} (leaves : machine.StoredUpTo x stored)
    (loads : stored.LoadedUpTo x after) (number : Register) :
    after.register number =
      if number ≤ x ∧ (machine.index.val + number.val) % 4096 < 80 then
        machine.memory.read (Fin.ofNat 4096 (machine.index.val + number.val))
      else machine.register number := by
  have kept : stored.register number = machine.register number :=
    register_congr leaves.registers number
  by_cases upTo : number ≤ x
  · have distance : (Fin.ofNat 4096 (machine.index.val + number.val) - machine.index).val =
        number.val := by
      rw [ofNat_add_place]
      exact distance_ofNat machine.index (by omega)
    rw [loads.loaded number upTo, leaves.index]
    by_cases inFont : (machine.index.val + number.val) % 4096 < 80
    · rw [if_pos ⟨upTo, inFont⟩]
      exact leaves.kept _ (.inl inFont)
    · rw [if_neg fun both => inFont both.2]
      have back := leaves.stored (Fin.ofNat 4096 (machine.index.val + number.val))
        (Nat.not_lt.mp inFont) (by rw [distance]; exact upTo)
      rw [back, distance]
      exact congrArg machine.register (Fin.ext (Nat.mod_eq_of_lt number.isLt))
  · rw [if_neg fun both => upTo both.1, loads.kept number (Fin.not_le.mp upTo)]
    exact kept

/-- Digits that are stored outside of the font and loaded back make up the byte they came from. -/
theorem StoredDecimal.loadedBack {stored : Machine} (leaves : machine.StoredDecimal x stored)
    (loads : stored.LoadedUpTo 2 after)
    (outside : ∀ offset < 3, 80 ≤ (machine.index.val + offset) % 4096) :
    after.register 0 ≤ 9 ∧ after.register 1 ≤ 9 ∧ after.register 2 ≤ 9 ∧
      100 * (after.register 0).toNat + 10 * (after.register 1).toNat + (after.register 2).toNat =
        (machine.register x).toNat := by
  have digit (number : Register) (upTo : number ≤ 2) (byte : Byte)
      (member : (number.val, byte) ∈ decimalDigits (machine.register x)) :
      after.register number = byte := by
    rw [loads.loaded number upTo, leaves.index]
    exact leaves.stored number.val byte member (outside number.val (Nat.lt_succ_of_le upTo))
  have hundreds := digit 0 (by decide) _ List.mem_cons_self
  have tens := digit 1 (by decide) _ (List.mem_cons_of_mem _ List.mem_cons_self)
  have ones := digit 2 (by decide) _
    (List.mem_cons_of_mem _ (List.mem_cons_of_mem _ List.mem_cons_self))
  rw [hundreds, tens, ones]
  have bound : (machine.register x).toNat < 256 := (machine.register x).toNat_lt
  simp only [UInt8.le_iff_toNat_le, UInt8.toNat_div, UInt8.toNat_mod, UInt8.reduceToNat]
  omega

/-- What moves between the registers and the memory behind the index register.

In every machine that a program can reach, `FX55` leaves `V0` to `VX` in the bytes from the index
register on, counted around the end of the memory, except in the font, and changes no other byte.
`FX65` sets `V0` to `VX` to these bytes and no other register. One after the other they leave every
register as it was, but for the registers whose place lies in the font, which become its bytes.
`FX33` and then `F265` leave the three decimal digits of what `VX` was in `V0`, `V1` and `V2`, if
none of their places lies in the font. The index register always stays. -/
theorem transfers_through_index (cartridge : Cartridge) (entropy : Entropy)
    (actions : List Action) (machine : Machine)
    (reached : (boot cartridge entropy).run actions = machine) (x : Register) :
    (∀ store, machine.Executes (Instruction.byteWord 0xF x 0x55) store →
      machine.StoredUpTo x (machine.act store)) ∧
    (∀ load, machine.Executes (Instruction.byteWord 0xF x 0x65) load →
      machine.LoadedUpTo x (machine.act load)) ∧
    (∀ store load, machine.Executes (Instruction.byteWord 0xF x 0x55) store →
      (machine.act store).Executes (Instruction.byteWord 0xF x 0x65) load →
      (machine.run [store, load]).index = machine.index ∧
      ∀ number ≤ x,
        (80 ≤ (machine.index.val + number.val) % 4096 →
          (machine.run [store, load]).register number = machine.register number) ∧
        ∀ inFont : (machine.index.val + number.val) % 4096 < 80,
          (machine.run [store, load]).register number =
            Font.bytes[(machine.index.val + number.val) % 4096]) ∧
    ∀ store load, machine.Executes (Instruction.byteWord 0xF x 0x33) store →
      (machine.act store).Executes (Instruction.byteWord 0xF 2 0x65) load →
      (machine.run [store, load]).index = machine.index ∧
      ((∀ offset < 3, 80 ≤ (machine.index.val + offset) % 4096) →
        (machine.run [store, load]).register 0 ≤ 9 ∧
        (machine.run [store, load]).register 1 ≤ 9 ∧
        (machine.run [store, load]).register 2 ≤ 9 ∧
        100 * ((machine.run [store, load]).register 0).toNat +
            10 * ((machine.run [store, load]).register 1).toNat +
            ((machine.run [store, load]).register 2).toNat =
          (machine.register x).toNat) := by
  have loaded : (boot cartridge entropy).memory.HasFont := Memory.load_font cartridge.data
  have font : machine.memory.HasFont := by
    rw [← reached]
    exact run_font loaded actions
  refine ⟨fun _ => Executes.storedUpTo, fun _ => Executes.loadedUpTo, ?_, ?_⟩
  · intro store load stores loads
    refine ⟨loads.loadedUpTo.index.trans stores.storedUpTo.index, fun number upTo => ⟨?_, ?_⟩⟩
    · intro outside
      refine (stores.storedUpTo.loadedBack loads.loadedUpTo number).trans (if_neg ?_)
      exact fun both => Nat.not_lt.mpr outside both.2
    · intro inFont
      rw [← font.read inFont]
      exact (stores.storedUpTo.loadedBack loads.loadedUpTo number).trans (if_pos ⟨upTo, inFont⟩)
  · intro store load stores loads
    exact ⟨loads.loadedUpTo.index.trans stores.storedDecimal.index,
      stores.storedDecimal.loadedBack loads.loadedUpTo⟩

/-- A machine with 7 in `V0` and 213 in `V3`, and with its index register at a place. -/
def atWindow (index : Address) : Machine :=
  (boot ⟨"window", #[], by decide⟩ ⟨fun _ => 0, 0⟩).run
    [.execute (.load 0 7), .execute (.load 3 213), .execute (.loadIndex index)]

/-- A window that starts in the last byte of the memory runs into the font: the first register comes
back, and the others become rows of the first glyph. Elsewhere 213 comes back by its digits. -/
theorem window_round_the_end :
    ((atWindow 0xFFF).run [.execute (.storeRegisters 3), .execute (.loadRegisters 3)]).register 0 = 7 ∧
      ((atWindow 0xFFF).run [.execute (.storeRegisters 3), .execute (.loadRegisters 3)]).register 3 =
        0x90 ∧
      100 * (((atWindow 0x300).run
            [.execute (.storeDecimal 3), .execute (.loadRegisters 2)]).register 0).toNat +
          10 * (((atWindow 0x300).run
            [.execute (.storeDecimal 3), .execute (.loadRegisters 2)]).register 1).toNat +
          (((atWindow 0x300).run
            [.execute (.storeDecimal 3), .execute (.loadRegisters 2)]).register 2).toNat = 213 := by
  obtain ⟨_, _, back, _⟩ := transfers_through_index _ _ _ (atWindow 0xFFF) rfl 3
  obtain ⟨_, _, _, digits⟩ := transfers_through_index _ _ _ (atWindow 0x300) rfl 3
  obtain ⟨_, registers⟩ := back _ _ (.given (.storeRegisters 3) (by decide))
    (.given (.loadRegisters 3) (by decide))
  obtain ⟨_, outside⟩ := digits _ _ (.given (.storeDecimal 3) (by decide))
    (.given (.loadRegisters 2) (by decide))
  have index (place : Address) : (atWindow place).index = place := rfl
  rw [index] at registers outside
  refine ⟨((registers 0 (by decide)).1 (by decide)).trans ?_,
    ((registers 3 (by decide)).2 (by decide)).trans ?_, (outside ?_).2.2.2.trans ?_⟩
  · decide +kernel
  · decide
  · decide
  · decide +kernel

end Machine
end ChipEight
