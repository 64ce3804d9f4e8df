import Mathlib.Logic.Basic
import ChipEight.Machine.Dump

/-!
# What a listing of the memory tells

A line is given away by its words, sixteen bytes by eight words. Merging loses nothing, because
only rows of zeros are merged and a merged row still names its two ends: the rows of a listing
follow each other without a gap from the first address to the last, and each tells the bytes of its
own addresses.

The listing is made from the last line to the first. Made the other way round, each row joined to
the last one so far and each word read as an instruction is fetched, it comes out the same, and no
word is missing.
-/

namespace ChipEight

/-- A word gives both of its bytes away. -/
theorem Word.toNat_ofBytes (high low : Byte) :
    (ofBytes high low).toNat = high.toNat * 256 + low.toNat := by
  have highBound := high.toNat_lt
  have lowBound := low.toNat_lt
  exact UInt16.toNat_ofNat_of_lt' (by simp only [UInt16.size]; omega)

namespace Dump

variable {memory other : Memory}

/-! ## Lines -/

/-- The byte at a place of a line with given words. -/
def byteAt (content : List Word) (place : Nat) : Nat :=
  let word := content.getD (place / 2) 0
  if place % 2 = 0 then word.toNat / 256 else word.toNat % 256

/-- The words of a line give each of its bytes away. -/
theorem byteAt_lineWords (memory : Memory) {line : Nat} {address : Address}
    (inside : address.val / 16 = line) :
    byteAt (lineWords memory line) (address.val % 16) = (memory.read address).toNat := by
  let first := line * 16 + address.val % 16 / 2 * 2
  have column : address.val % 16 / 2 < 8 := by omega
  have found : (lineWords memory line).getD (address.val % 16 / 2) 0 =
      Word.ofBytes (memory.read (Fin.ofNat 4096 first)) (memory.read (Fin.ofNat 4096 (first + 1))) := by
    simp [lineWords, column, first]
  have low := (memory.read (Fin.ofNat 4096 (first + 1))).toNat_lt
  simp only [byteAt, found, Word.toNat_ofBytes]
  split
  case isTrue even =>
    have same : address = Fin.ofNat 4096 first := by
      rw [← Fin.ofNat_val_eq_self address]
      exact congrArg _ (by omega)
    rw [same]
    omega
  case isFalse odd =>
    have same : address = Fin.ofNat 4096 (first + 1) := by
      rw [← Fin.ofNat_val_eq_self address]
      exact congrArg _ (by omega)
    rw [same]
    omega

/-- A line whose words are all zero has only zero bytes. -/
theorem read_of_zeros {line : Nat} {address : Address} (inside : address.val / 16 = line)
    (empty : (lineWords memory line).all (· == 0) = true) : memory.read address = 0 := by
  have zeros : ∀ word ∈ lineWords memory line, word = 0 := by simpa using empty
  have zero : (lineWords memory line).getD (address.val % 16 / 2) 0 = 0 := by
    rw [List.getD_eq_getElem?_getD]
    cases found : (lineWords memory line)[address.val % 16 / 2]? with
    | none => rfl
    | some word => exact zeros word (List.mem_of_getElem? found)
  have byte := byteAt_lineWords memory inside
  simp only [byteAt, zero] at byte
  exact UInt8.toNat_inj.mp (by rw [← byte]; split <;> rfl)

/-! ## Rows -/

/-- The first address of a row. -/
def MemoryRow.first : MemoryRow → Nat
  | .words first _ | .zeros first _ => first

/-- The last address of a row. Eight words are sixteen bytes. -/
def MemoryRow.last : MemoryRow → Nat
  | .words first _ => first + 15
  | .zeros _ last => last

/-- A row tells what a memory holds at its addresses. -/
inductive MemoryRow.Shows (memory : Memory) : MemoryRow → Prop
  | words (line : Nat) (inside : line < 256) :
      Shows memory (.words (line * 16) (lineWords memory line))
  | zeros (first last : Nat) (ordered : first ≤ last) (inside : last < 4096)
      (empty : ∀ address : Address, first ≤ address.val → address.val ≤ last →
        memory.read address = 0) :
      Shows memory (.zeros first last)

/-- The row of a line tells what the line holds. -/
theorem lineRow_shows (memory : Memory) {line : Nat} (inside : line < 256) :
    (lineRow memory line).Shows memory := by
  unfold lineRow rowOf
  split
  case isTrue empty =>
    refine .zeros _ _ (by omega) (by omega) ?_
    intro address above below
    exact read_of_zeros (by omega) empty
  case isFalse => exact .words line inside

/-- The row of a line begins and ends with the line. -/
theorem lineRow_bounds (memory : Memory) (line : Nat) :
    (lineRow memory line).first = line * 16 ∧ (lineRow memory line).last = line * 16 + 15 := by
  unfold lineRow rowOf
  split <;> exact ⟨rfl, rfl⟩

/-- Two memories that a row shows agree at its addresses. -/
theorem MemoryRow.Shows.agree {row : MemoryRow} (shows : row.Shows memory)
    (showsOther : row.Shows other) {address : Address} (above : row.first ≤ address.val)
    (below : address.val ≤ row.last) : memory.read address = other.read address := by
  cases shows with
  | words line inside =>
    have lineOf : address.val / 16 = line := by
      simp only [first, last] at above below
      omega
    -- The other memory may show the same words on a line of its own, which has to be this one.
    generalize shown : lineWords memory line = content at showsOther
    generalize begins : line * 16 = start at showsOther
    cases showsOther with
    | words line' inside' =>
      obtain rfl : line = line' := by omega
      apply UInt8.toNat_inj.mp
      rw [← byteAt_lineWords memory lineOf, ← byteAt_lineWords other lineOf, shown]
  | zeros _ _ ordered inside empty =>
    cases showsOther with
    | zeros _ _ _ _ emptyToo => rw [empty address above below, emptyToo address above below]

/-! ## Listings -/

/-- Rows that follow each other without a gap from an address to the end of the memory, and tell
what the memory holds. -/
inductive Listing (memory : Memory) : Nat → List MemoryRow → Prop
  | done : Listing memory 4096 []
  | row {row : MemoryRow} {rows : List MemoryRow} (shows : row.Shows memory)
      (following : Listing memory (row.last + 1) rows) : Listing memory row.first (row :: rows)

/-- A row in front of a listing makes a listing, also where it joins the zeros that follow. -/
theorem Listing.addRow {row : MemoryRow} {rows : List MemoryRow} (shows : row.Shows memory)
    (following : Listing memory (row.last + 1) rows) :
    Listing memory row.first (Dump.addRow row rows) := by
  unfold Dump.addRow
  split
  case h_1 first last first' last' rows =>
    -- The row behind begins where these zeros end, so that the joined row has no gap.
    generalize next : (MemoryRow.zeros first last).last + 1 = start at following
    cases following with
    | row showsNext rest =>
      obtain - | ⟨_, _, ordered, inside, empty⟩ := shows
      obtain - | ⟨_, _, orderedNext, insideNext, emptyNext⟩ := showsNext
      simp only [MemoryRow.first, MemoryRow.last] at next
      have joined : (MemoryRow.zeros first last').Shows memory := by
        refine .zeros _ _ (by omega) insideNext ?_
        intro address above below
        rcases Nat.lt_or_ge last address.val with beyond | within
        · exact emptyNext address (by omega) below
        · exact empty address above within
      exact .row joined rest
  case h_2 => exact .row shows following

/-- The rows of a memory list it, from any line on. -/
theorem lines_listing (memory : Memory) (count line : Nat) (total : line + count = 256) :
    Listing memory (line * 16)
      (((List.range' line count).map (lineRow memory)).foldr Dump.addRow []) := by
  induction count generalizing line with
  | zero =>
    obtain rfl : line = 256 := total
    exact .done
  | succ count inductionHypothesis =>
    obtain ⟨first, last⟩ := lineRow_bounds memory line
    have following := inductionHypothesis (line + 1) (by omega)
    have meets : (line + 1) * 16 = (lineRow memory line).last + 1 := by omega
    rw [List.range'_succ, List.map_cons, List.foldr_cons, ← first]
    rw [meets] at following
    exact .addRow (lineRow_shows memory (by omega)) following

/-- The rows of a memory list it from the first address on. -/
theorem memoryRows_listing (memory : Memory) : Listing memory 0 (memoryRows memory) := by
  have whole := lines_listing memory 256 0 rfl
  rwa [← List.range_eq_range'] at whole

/-- Each row of a listing shows what the memory holds. -/
theorem Listing.shows {start : Nat} {rows : List MemoryRow} (listing : Listing memory start rows) :
    ∀ row ∈ rows, row.Shows memory := by
  induction listing with
  | done => nofun
  | row shows _ inductionHypothesis => exact List.forall_mem_cons.mpr ⟨shows, inductionHypothesis⟩

/-- Memories with a common listing agree where the listing begins and behind. -/
theorem Listing.agree {start : Nat} {rows : List MemoryRow} (listing : Listing memory start rows)
    (listingOther : Listing other start rows) (address : Address) (above : start ≤ address.val) :
    memory.read address = other.read address := by
  induction listing with
  | done => omega
  | @row row rows shows following inductionHypothesis =>
    generalize begins : row.first = start at listingOther above
    cases listingOther with
    | row showsOther followingOther =>
      rcases Nat.lt_or_ge row.last address.val with beyond | within
      · exact inductionHypothesis followingOther beyond
      · exact shows.agree showsOther above within

/-- The rows of a memory tell all of it. -/
theorem memoryRows_injective (same : memoryRows memory = memoryRows other) : memory = other := by
  have listing := memoryRows_listing memory
  have listingOther := memoryRows_listing other
  rw [← same] at listingOther
  have agree : ∀ address : Address, memory.read address = other.read address :=
    fun address => listing.agree listingOther address (Nat.zero_le _)
  obtain ⟨cells⟩ := memory
  obtain ⟨otherCells⟩ := other
  exact congrArg Memory.mk (Vector.ext fun place inside => agree ⟨place, inside⟩)

/-! ## Listing while reading -/

/-- The two bytes of a word of a line both lie in the memory. -/
theorem read_inside (memory : Memory) {place : Nat} (inside : place + 1 < 4096) :
    Word.read memory.cells.toArray place =
      .ok (Word.ofBytes (memory.read (Fin.ofNat 4096 place))
        (memory.read (Fin.ofNat 4096 (place + 1)))) := by
  have size : memory.cells.toArray.size = 4096 := memory.cells.size_toArray
  have low : place < 4096 := by omega
  simp [Word.read, Memory.read, size, inside, low, Nat.mod_eq_of_lt]

/-- Reading that succeeds item by item succeeds for all of them. -/
theorem mapM_ok {α β : Type} {read : α → Except WordError β} {found : α → β} {items : List α}
    (each : ∀ item ∈ items, read item = .ok (found item)) :
    items.mapM read = .ok (items.map found) := by
  induction items with
  | nil => rfl
  | cons item items inductionHypothesis =>
    obtain ⟨first, rest⟩ := List.forall_mem_cons.mp each
    rw [List.mapM_cons, first, inductionHypothesis rest]
    rfl

/-- Steps that succeed one by one succeed as a whole. -/
theorem foldlM_ok {α σ : Type} {step : σ → α → Except WordError σ} {next : σ → α → σ}
    {items : List α} (each : ∀ item ∈ items, ∀ state, step state item = .ok (next state item))
    (state : σ) : items.foldlM step state = .ok (items.foldl next state) := by
  induction items generalizing state with
  | nil => rfl
  | cons item items inductionHypothesis =>
    obtain ⟨first, rest⟩ := List.forall_mem_cons.mp each
    rw [List.foldlM_cons, first]
    exact inductionHypothesis rest _

/-- No word of a line is missing. -/
theorem readLine_ok (memory : Memory) {line : Nat} (inside : line < 256) :
    readLine memory line = .ok (lineWords memory line) := by
  refine mapM_ok fun column member => ?_
  have narrow : column < 8 := List.mem_range.mp member
  exact read_inside memory (by omega)

/-- Rows of which each is appended to the ones before are the rows of which each is put in front of
the ones behind. -/
theorem foldl_appendRow (rows : List MemoryRow) (latest : MemoryRow) (earlier : List MemoryRow) :
    (rows.foldl appendRow (latest :: earlier)).reverse =
      earlier.reverse ++ Dump.addRow latest (rows.foldr Dump.addRow []) := by
  induction rows generalizing latest earlier with
  | nil => cases latest <;> simp [Dump.addRow]
  | cons row rows inductionHypothesis =>
    rw [List.foldl_cons, List.foldr_cons]
    generalize rows.foldr Dump.addRow [] = behind at inductionHypothesis ⊢
    cases latest with
    | words first content =>
      have apart : appendRow (.words first content :: earlier) row =
          row :: .words first content :: earlier := by cases row <;> rfl
      rw [apart, inductionHypothesis]
      simp [Dump.addRow]
    | zeros first last =>
      cases row with
      | words first' content' =>
        rw [appendRow, inductionHypothesis]
        · simp [Dump.addRow]
        · nofun
      | zeros first' last' =>
        rw [appendRow, inductionHypothesis]
        cases behind with
        | nil => rfl
        | cons next behind => cases next <;> rfl

/-- The listing made while reading is the listing. -/
theorem readRows_ok (memory : Memory) : readRows memory = .ok (memoryRows memory) := by
  have appended : ∀ line ∈ List.range 256, ∀ rows,
      appendLine memory rows line = .ok (appendRow rows (lineRow memory line)) := by
    intro line member rows
    rw [appendLine, readLine_ok memory (List.mem_range.mp member)]
    rfl
  have turned (rows : List MemoryRow) :
      (rows.foldl appendRow []).reverse = rows.foldr Dump.addRow [] := by
    cases rows with
    | nil => rfl
    | cons row rows => exact foldl_appendRow rows row []
  have whole : ((List.range 256).foldl (fun rows line => appendRow rows (lineRow memory line))
      []).reverse = memoryRows memory := by
    rw [← List.foldl_map, turned, memoryRows]
  rw [readRows, foldlM_ok appended []]
  exact congrArg Except.ok whole

end Dump

/-- No machine is left without a dump. -/
theorem Machine.dump?_ok (machine : Machine) : machine.dump? = .ok machine.dump := by
  rw [dump?, Dump.readRows_ok]
  rfl

end ChipEight
