import ChipEight.Proofs.Machine.Execution
import ChipEight.Proofs.Machine.Range

/-!
# What a sprite does to single pixels

A sprite is drawn a row at a time, with a mask that is rotated around the right edge. Seen from the
pixels, drawing flips one pixel for each set bit of the sprite, in the order of the rows and from
the left. A sprite of more than 32 rows comes round to rows it has flipped before, so a pixel may
be flipped more than once; only the count of its flips matters for what it is in the end.

A pixel is switched off on the way if it was lit and is flipped at all, or if it is flipped more
than once. This is what the answer of a drawing tells.
-/

namespace ChipEight
namespace Screen

/-- Whether coordinates, which may lie beyond an edge, are those of a pixel. -/
def liesOn (column : Fin 64) (row : Fin 32) (place : Nat × Nat) : Bool :=
  place.1 % 64 == column.val && place.2 % 32 == row.val

/-- The coordinates of the set bits of a byte whose highest bit is at a place. -/
def bitPlaces (x y : Nat) (byte : Byte) : List (Nat × Nat) :=
  ((List.range 8).filter fun column => byte.toNat.testBit (7 - column)).map
    fun column => (x + column, y)

/-- The coordinates of the set bits of a sprite, row by row. -/
def spritePlaces (x y : Nat) (sprite : List Byte) : List (Nat × Nat) :=
  (List.range sprite.length).flatMap fun row => bitPlaces x (y + row) (sprite.getD row 0)

/-- How many set bits of a sprite lie on a pixel. -/
def hits (x y : Nat) (sprite : List Byte) (column : Fin 64) (row : Fin 32) : Nat :=
  (spritePlaces x y sprite).countP (liesOn column row)

/-- Flips one pixel after the other, and tells whether a flip has switched one off. -/
def flipEach (screen : Screen) : List (Nat × Nat) → Screen × Bool
  | [] => (screen, false)
  | (x, y) :: rest =>
    let (flipped, lit) := screen.toggle x y
    let (drawn, later) := flipped.flipEach rest
    (drawn, !lit || later)

/-- Whether a pixel is switched off at least once while it is flipped a number of times. -/
def SwitchedOff (lit : Bool) (flips : Nat) : Prop := lit = true ∧ 1 ≤ flips ∨ 2 ≤ flips

/-! ## Rows as bits -/

/-- Screens with the same pixels are the same. -/
theorem eq_of_pixel {screen other : Screen}
    (same : ∀ column row, screen.pixel column row = other.pixel column row) : screen = other := by
  obtain ⟨rows⟩ := screen
  obtain ⟨others⟩ := other
  congr 1
  refine Vector.ext fun row inside => ?_
  refine BitVec.eq_of_getMsbD_eq fun column within => ?_
  exact same ⟨column, within⟩ ⟨row, inside⟩

/-- Flipping a row flips the pixels that the mask selects. The other rows stay. -/
theorem pixel_flipRow (screen : Screen) (row : Fin 32) (mask : BitVec 64) (column : Fin 64)
    (other : Fin 32) :
    (screen.flipRow row mask).1.pixel column other =
      (screen.pixel column other ^^ (decide (row = other) && mask.getMsbD column.val)) := by
  by_cases same : row = other
  · subst same
    simp [pixel, flipRow]
  · have apart : row.val ≠ other.val := fun equal => same (Fin.ext equal)
    simp [pixel, flipRow, same, Vector.getElem_set_ne _ _ apart]

/-- A row is hit iff the mask selects one of its lit pixels. -/
theorem flipRow_hit (screen : Screen) (row : Fin 32) (mask : BitVec 64) :
    (screen.flipRow row mask).2 = true ↔
      ∃ column : Fin 64, screen.pixel column row = true ∧ mask.getMsbD column.val = true := by
  have shared (column : Fin 64) : (screen.rows[row] &&& mask).getMsbD column.val =
      (screen.pixel column row && mask.getMsbD column.val) := BitVec.getMsbD_and
  have overlap : (screen.flipRow row mask).2 = (screen.rows[row] &&& mask != 0) := rfl
  rw [overlap, bne_iff_ne]
  constructor
  · intro some
    refine Classical.byContradiction fun none => some ?_
    refine BitVec.eq_of_getMsbD_eq fun column within => ?_
    rw [shared ⟨column, within⟩, BitVec.ofNat_eq_ofNat, BitVec.getMsbD_zero, Bool.eq_false_iff]
    intro lit
    exact none ⟨⟨column, within⟩, Bool.and_eq_true_iff.mp lit⟩
  · rintro ⟨column, hit⟩ none
    have lit := shared column
    rw [none, Bool.and_eq_true_iff.mpr hit] at lit
    simp at lit

/-- A mask selects in a column the bit of its byte that is as far from the first bit as the column
is from the place of the byte, counted around the edge. -/
theorem getMsbD_spriteMask (x : Nat) (byte : Byte) (column : Fin 64) :
    (spriteMask x byte).getMsbD column.val =
      byte.toBitVec.getMsbD ((column.val + 64 - x % 64) % 64) := by
  have bound : column.val < 64 := column.isLt
  have shift : x % 64 < 64 := Nat.mod_lt _ (by decide)
  have left (place : Nat) (inside : place < 64) :
      ((byte.toBitVec.setWidth 64) <<< 56).getMsbD place = byte.toBitVec.getMsbD place := by
    rw [BitVec.getMsbD_shiftLeft, BitVec.getMsbD_setWidth]
    simp
  rw [spriteMask, BitVec.getMsbD_rotateRight]
  simp only [bound, decide_true, Bool.true_and]
  split
  · rw [left _ (Nat.mod_lt _ (by decide))]
    congr 1
    omega
  · rw [left _ (by omega)]
    congr 1
    omega

/-- The bits of a byte from the highest on. -/
theorem getMsbD_byte (byte : Byte) (place : Nat) :
    byte.toBitVec.getMsbD place = (decide (place < 8) && byte.toNat.testBit (7 - place)) := by
  rw [BitVec.getMsbD_eq_getLsbD, ← BitVec.testBit_toNat]
  rfl

/-- A byte that is drawn has at most one bit on a pixel: eight columns in a row are eight different
columns also around the edge. -/
theorem countP_bitPlaces (x y : Nat) (byte : Byte) (column : Fin 64) (row : Fin 32) :
    (bitPlaces x y byte).countP (liesOn column row) =
      (decide (Fin.ofNat 32 y = row) && (spriteMask x byte).getMsbD column.val).toNat := by
  have bound : column.val < 64 := column.isLt
  generalize distance : (column.val + 64 - x % 64) % 64 = place
  have meets (offset : Nat) (short : offset < 8) : (x + offset) % 64 = column.val ↔ offset = place := by
    omega
  have onRow : y % 32 = row.val ↔ Fin.ofNat 32 y = row :=
    ⟨fun same => Fin.ext same, fun same => congrArg Fin.val same⟩
  rw [getMsbD_spriteMask, distance, getMsbD_byte]
  generalize Fin.ofNat 32 y = line at onRow ⊢
  generalize selected : (decide (line = row) &&
    (decide (place < 8) && byte.toNat.testBit (7 - place))) = bit
  have single : (bitPlaces x y byte).countP (liesOn column row) =
      (List.range 8).countP fun offset => offset == place && bit := by
    rw [bitPlaces, List.countP_map, List.countP_filter]
    refine List.countP_congr fun offset member => ?_
    have short : offset < 8 := List.mem_range.mp member
    simp only [liesOn, Function.comp_apply, Bool.and_eq_true, beq_iff_eq, meets offset short, onRow]
    constructor
    · rintro ⟨⟨rfl, same⟩, set⟩
      exact ⟨rfl, by simp [← selected, same, set, short]⟩
    · rintro ⟨rfl, set⟩
      simpa [← selected, short] using set
  rw [single]
  cases bit with
  | false => simp
  | true =>
    have short : place < 8 := by
      simp only [Bool.and_eq_true, decide_eq_true_eq] at selected
      exact selected.2.1
    have once : (List.range 8).count place = 1 :=
      List.count_eq_one_of_mem List.nodup_range (List.mem_range.mpr short)
    simpa [List.count] using once

/-! ## One pixel after the other -/

/-- The first flip switches a lit pixel off; an unlit one is lit for the flips after it. -/
theorem switchedOff_succ (lit : Bool) (flips : Nat) :
    SwitchedOff lit (flips + 1) ↔ lit = true ∨ SwitchedOff (!lit) flips := by
  cases lit with
  | false =>
    simp only [SwitchedOff, Bool.false_eq_true, false_and, false_or, Bool.not_false, true_and]
    omega
  | true => simp [SwitchedOff]

/-- Flipping one pixel leaves the others. -/
theorem pixel_toggle (screen : Screen) (x y : Nat) (column : Fin 64) (row : Fin 32) :
    (screen.toggle x y).1.pixel column row =
      (screen.pixel column row ^^ liesOn column row (x, y)) := by
  have bound : column.val < 64 := column.isLt
  have single : (spriteMask x 0x80).getMsbD column.val = (x % 64 == column.val) := by
    have first : ∀ place : Fin 64, (0x80 : Byte).toBitVec.getMsbD place.val = (place.val == 0) := by
      decide
    rw [getMsbD_spriteMask, first ⟨_, Nat.mod_lt _ (by decide)⟩, Bool.eq_iff_iff]
    simp only [beq_iff_eq]
    omega
  have onRow : decide (Fin.ofNat 32 y = row) = (y % 32 == row.val) := by
    rw [Bool.eq_iff_iff]
    simp [Fin.ext_iff]
  rw [toggle, pixel_flipRow, single, onRow, Bool.and_comm]
  rfl

/-- A flip tells the state it leaves, which is not the state it finds. -/
theorem toggle_lit (screen : Screen) (x y : Nat) :
    (screen.toggle x y).2 = !screen.pixelAt x y := by
  have told : (screen.toggle x y).2 = (screen.toggle x y).1.pixelAt x y := rfl
  have here : liesOn (Fin.ofNat 64 x) (Fin.ofNat 32 y) (x, y) = true := by simp [liesOn]
  rw [told, pixelAt, pixel_toggle, here, Bool.xor_true]
  rfl

/-- Flips of some pixels are followed by flips of further ones. -/
theorem flipEach_append (screen : Screen) (places further : List (Nat × Nat)) :
    screen.flipEach (places ++ further) =
      (((screen.flipEach places).1.flipEach further).1,
        (screen.flipEach places).2 || ((screen.flipEach places).1.flipEach further).2) := by
  induction places generalizing screen with
  | nil => rfl
  | cons place rest inductionHypothesis =>
    simp only [List.cons_append, flipEach, inductionHypothesis, Bool.or_assoc]

/-- A pixel is changed by an odd number of flips. -/
theorem pixel_flipEach (screen : Screen) (places : List (Nat × Nat)) (column : Fin 64)
    (row : Fin 32) :
    (screen.flipEach places).1.pixel column row =
      (screen.pixel column row ^^ decide (places.countP (liesOn column row) % 2 = 1)) := by
  induction places generalizing screen with
  | nil => simp [flipEach]
  | cons place rest inductionHypothesis =>
    have later := inductionHypothesis (screen.toggle place.1 place.2).1
    rw [pixel_toggle] at later
    refine later.trans ?_
    rw [List.countP_cons, Bool.xor_assoc]
    congr 1
    cases liesOn column row place with
    | false => simp
    | true =>
      rw [Bool.eq_iff_iff]
      simp
      omega

/-- A pixel is switched off by a flip that finds it lit, or by a later one. -/
theorem switchedOff_cons (screen : Screen) (place : Nat × Nat) (rest : List (Nat × Nat))
    (column : Fin 64) (row : Fin 32) :
    SwitchedOff (screen.pixel column row) ((place :: rest).countP (liesOn column row)) ↔
      liesOn column row place = true ∧ screen.pixelAt place.1 place.2 = true ∨
        SwitchedOff ((screen.toggle place.1 place.2).1.pixel column row)
          (rest.countP (liesOn column row)) := by
  rw [pixel_toggle, List.countP_cons]
  cases lies : liesOn column row place with
  | false => simp
  | true =>
    have found : screen.pixelAt place.1 place.2 = screen.pixel column row := by
      have both : place.1 % 64 = column.val ∧ place.2 % 32 = row.val := by simpa [liesOn] using lies
      exact congrArg₂ screen.pixel (Fin.ext both.1) (Fin.ext both.2)
    simp only [found, Bool.xor_true, if_true, true_and]
    exact switchedOff_succ _ _

/-- A flip switches a pixel off iff it finds it lit. Of the flips together, one has done so iff some
pixel has been switched off. -/
theorem flipEach_hit (screen : Screen) (places : List (Nat × Nat)) :
    (screen.flipEach places).2 = true ↔
      ∃ column row, SwitchedOff (screen.pixel column row) (places.countP (liesOn column row)) := by
  induction places generalizing screen with
  | nil => simp [flipEach, SwitchedOff]
  | cons place rest inductionHypothesis =>
    have told : (screen.flipEach (place :: rest)).2 =
        (screen.pixelAt place.1 place.2 ||
          ((screen.toggle place.1 place.2).1.flipEach rest).2) := by
      simp [flipEach, toggle_lit]
    rw [told, Bool.or_eq_true, inductionHypothesis]
    simp only [switchedOff_cons]
    constructor
    · rintro (lit | ⟨column, row, off⟩)
      · have lies : liesOn (Fin.ofNat 64 place.1) (Fin.ofNat 32 place.2) place = true := by
          simp [liesOn]
        exact ⟨_, _, .inl ⟨lies, lit⟩⟩
      · exact ⟨column, row, .inr off⟩
    · rintro ⟨column, row, ⟨_, lit⟩ | off⟩
      · exact .inl lit
      · exact .inr ⟨column, row, off⟩

/-! ## Sprites -/

/-- The first row of a sprite comes first, and the others are one row lower. -/
theorem spritePlaces_cons (x y : Nat) (byte : Byte) (rest : List Byte) :
    spritePlaces x y (byte :: rest) = bitPlaces x y byte ++ spritePlaces x (y + 1) rest := by
  have lower : (fun row => bitPlaces x (y + row.succ) ((byte :: rest).getD row.succ 0)) =
      fun row => bitPlaces x (y + 1 + row) (rest.getD row 0) := by
    funext row
    rw [List.getD_cons_succ, Nat.succ_eq_one_add, Nat.add_assoc]
  rw [spritePlaces, List.length_cons, List.range_succ_eq_map, List.flatMap_cons, List.flatMap_map,
    lower]
  rfl

/-- A row is flipped with a mask as its bits would be one by one. -/
theorem flipRow_eq_flipEach (screen : Screen) (x y : Nat) (byte : Byte) :
    screen.flipRow (Fin.ofNat 32 y) (spriteMask x byte) = screen.flipEach (bitPlaces x y byte) := by
  refine Prod.ext (eq_of_pixel fun column row => ?_) ?_
  · rw [pixel_flipRow, pixel_flipEach, countP_bitPlaces]
    cases decide (Fin.ofNat 32 y = row) && (spriteMask x byte).getMsbD column.val <;> rfl
  · rw [Bool.eq_iff_iff, flipRow_hit, flipEach_hit]
    simp only [countP_bitPlaces]
    generalize Fin.ofNat 32 y = line
    constructor
    · rintro ⟨column, lit, selected⟩
      exact ⟨column, line, .inl ⟨lit, by simp [selected]⟩⟩
    · rintro ⟨column, row, off⟩
      -- one flip switches a pixel off only if it was lit
      cases selected : decide (line = row) && (spriteMask x byte).getMsbD column.val with
      | false => simp [selected, SwitchedOff] at off
      | true =>
        have lit : screen.pixel column row = true := by simpa [selected, SwitchedOff] using off
        obtain ⟨rfl, set⟩ : line = row ∧ (spriteMask x byte).getMsbD column.val = true := by
          simpa using selected
        exact ⟨column, lit, set⟩

/-- Drawing a sprite is flipping the pixels of its set bits, one after the other. -/
theorem draw_eq_flipEach (screen : Screen) (x y : Nat) (sprite : List Byte) :
    screen.draw x y sprite = screen.flipEach (spritePlaces x y sprite) := by
  induction sprite generalizing screen y with
  | nil => rfl
  | cons byte rest inductionHypothesis =>
    rw [spritePlaces_cons, flipEach_append, ← flipRow_eq_flipEach, ← inductionHypothesis]
    rfl

/-- A pixel is changed by a sprite iff an odd number of set bits lies on it. -/
theorem pixel_draw (screen : Screen) (x y : Nat) (sprite : List Byte) (column : Fin 64)
    (row : Fin 32) :
    (screen.draw x y sprite).1.pixel column row =
      (screen.pixel column row ^^ decide (hits x y sprite column row % 2 = 1)) := by
  rw [draw_eq_flipEach, pixel_flipEach]
  rfl

/-- A sprite that is drawn twice leaves the screen as it was. -/
theorem draw_draw (screen : Screen) (x y : Nat) (sprite : List Byte) :
    ((screen.draw x y sprite).1.draw x y sprite).1 = screen := by
  refine eq_of_pixel fun column row => ?_
  rw [pixel_draw, pixel_draw, Bool.xor_assoc, Bool.xor_self, Bool.xor_false]

end Screen

namespace Machine
open Screen

/-- The rows of a sprite are the bytes from the index register on, wrapped. -/
theorem sprite_eq (machine : Machine) (count : Fin 16) :
    machine.sprite count = (List.range count.val).map fun row =>
      machine.memory.read (Fin.ofNat 4096 (machine.index.val + row)) := by
  simp only [sprite, ofNat_add_place]

/-- A cycle at a word `DXYN` draws with the registers it finds, and then reports in the last one. -/
theorem cycle_of_draw {machine : Machine} {word : Word}
    (read : machine.memory.word machine.pc = .ok word) (draws : word.family = 0xD) :
    machine.cycle =
      (((machine.fetched word).drawSprite word.x word.y word.n).step .next, .ok .drawn) := by
  have known : Instruction.ofWord? word = some (.draw word.x word.y word.n) := by
    simp [Instruction.ofWord?, draws]
  exact cycle_of_done read known rfl

/-- What drawing a sprite does.

Every pixel is changed iff an odd number of the set bits of the sprite lies on it, where the bit
`7 - c` of row `r` of a sprite at `(x, y)` lies on the pixel `(x + c, y + r)`, counted around the
edges. The answer tells whether a pixel that was lit got a bit or some pixel got two. A sprite of
any length that is drawn twice leaves the screen as it was.

A cycle at a word `DXYN` draws the `N` bytes from the index register on, counted around the end of
the memory, at the place that `VX` and `VY` name before the cycle. Then `VF` becomes the answer,
also where it was one of the two. -/
theorem sprite_flips_its_bits :
    (∀ (screen : Screen) (x y : Nat) (sprite : List Byte),
      (∀ column row, (screen.draw x y sprite).1.pixel column row =
        (screen.pixel column row ^^ decide (hits x y sprite column row % 2 = 1))) ∧
      ((screen.draw x y sprite).2 = true ↔
        ∃ column row, screen.pixel column row = true ∧ 1 ≤ hits x y sprite column row ∨
          2 ≤ hits x y sprite column row) ∧
      ((screen.draw x y sprite).1.draw x y sprite).1 = screen) ∧
    ∀ (machine : Machine) (word : Word) (drawn : Screen × Bool),
      machine.memory.word machine.pc = .ok word → word.family = 0xD →
      machine.screen.draw (machine.register word.x).toNat (machine.register word.y).toNat
        ((List.range word.n.val).map fun row =>
          machine.memory.read (Fin.ofNat 4096 (machine.index.val + row))) = drawn →
      machine.cycle.2 = .ok .drawn ∧ machine.cycle.1.screen = drawn.1 ∧
        ∀ number, machine.cycle.1.register number =
          if number = 0xF then Byte.ofFlag drawn.2 else machine.register number := by
  refine ⟨fun screen x y sprite => ⟨screen.pixel_draw x y sprite, ?_, screen.draw_draw x y sprite⟩, ?_⟩
  · rw [draw_eq_flipEach, flipEach_hit]
    rfl
  · intro machine word drawn read draws made
    rw [← sprite_eq] at made
    subst made
    rw [cycle_of_draw read draws]
    exact ⟨rfl, rfl, fun number => register_setRegister _ flagRegister number _⟩

/-- A machine at a sprite whose place is named by the last and the first register. Its rows lie
around the end of the memory, and it is drawn over the lower right corner of a screen whose upper
left pixel is lit. -/
def atCorner : Machine :=
  { boot ⟨"corner", #[0xDF, 0x03], by decide⟩ ⟨fun _ => 0, 0⟩ with
    registers := Vector.ofFn fun number => if number = 0 then 31 else if number = 0xF then 62 else 0
    index := 0xFFF
    screen := (Screen.blank.toggle 0 0).1 }

/-- The sprite comes round both edges, switches the lit pixel off and reports it in the register
that named its column. -/
theorem drawn_round_the_corner :
    atCorner.cycle.2 = .ok .drawn ∧ atCorner.cycle.1.register 0xF = 1 ∧
      atCorner.cycle.1.screen.pixel 0 0 = false ∧ atCorner.cycle.1.screen.pixel 63 0 = true ∧
      atCorner.cycle.1.screen.pixel 1 1 = true := by
  obtain ⟨_, cycles⟩ := sprite_flips_its_bits
  have read : atCorner.memory.word atCorner.pc = .ok 0xDF03 := Memory.word_load (by decide)
  have rows : ((List.range 3).map fun row =>
      atCorner.memory.read (Fin.ofNat 4096 (atCorner.index.val + row))) = [0x00, 0xF0, 0x90] := by
    have found (place : Address) : atCorner.memory.read place =
        Memory.initialByte #[0xDF, 0x03] place.val := Memory.read_load _ place
    simp only [found]
    decide
  obtain ⟨answered, shown, registers⟩ := cycles atCorner 0xDF03 _ read rfl
    (congrArg (atCorner.screen.draw 62 31) rows)
  refine ⟨answered, (registers 0xF).trans (by decide +kernel), ?_⟩
  rw [shown]
  decide +kernel

end Machine
end ChipEight
