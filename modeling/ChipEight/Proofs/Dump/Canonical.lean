import ChipEight.Proofs.Dump.Lossless

/-!
# The canonical listing of a memory

A listing could be made in several ways, by cutting the zeros of a memory into more rows or into
fewer. A canonical listing leaves no choice: its rows begin with lines and follow each other without
a gap, a row shows words exactly where a line is not empty, and no two rows of zeros meet. Every
memory has one canonical listing and no other, and it is the one in the dump.
-/

namespace ChipEight
namespace Dump

variable {memory : Memory}

/-- Whether a row stands for zeros. -/
def MemoryRow.isZeros : MemoryRow → Bool
  | .words .. => false
  | .zeros .. => true

/-- Neighbours of which at most one stands for zeros. -/
def MemoryRow.Apart (row next : MemoryRow) : Prop := row.isZeros = false ∨ next.isZeros = false

/-- What the rows of a canonical listing tell. Sixteen bytes that are not all zero are shown as the
eight words that would be fetched there; zeros stand for at least one zero byte. -/
def MemoryRow.Tells (memory : Memory) : MemoryRow → Prop
  | .words first content =>
    (∃ address : Address, first ≤ address.val ∧ address.val ≤ first + 15 ∧
      memory.read address ≠ 0) ∧
    content.length = 8 ∧
    ∀ column word, content[column]? = some word →
      Word.read memory.cells.toArray (first + column * 2) = .ok word
  | .zeros first last =>
    first ≤ last ∧
    ∀ address : Address, first ≤ address.val → address.val ≤ last → memory.read address = 0

/-- Rows that follow each other without a gap from an address to the end of the memory. -/
def Contiguous : Nat → List MemoryRow → Prop
  | start, [] => start = 4096
  | start, row :: rows => row.first = start ∧ Contiguous (row.last + 1) rows

/-- The canonical listing of a memory from an address on. -/
structure Canonical (memory : Memory) (start : Nat) (rows : List MemoryRow) : Prop where
  contiguous : Contiguous start rows
  aligned : ∀ row ∈ rows, row.first % 16 = 0
  told : ∀ row ∈ rows, row.Tells memory
  merged : rows.IsChain MemoryRow.Apart

/-! ## The listing is canonical -/

/-- A row that begins with a line, and shows words only if one of them is not zero. -/
def MemoryRow.IsProper : MemoryRow → Prop
  | .words first content => first % 16 = 0 ∧ content.all (· == 0) = false
  | .zeros first _ => first % 16 = 0

/-- The words of a line by their columns. -/
theorem getElem?_lineWords {line column : Nat} {word : Word} :
    (lineWords memory line)[column]? = some word ↔
      column < 8 ∧ Word.ofBytes (memory.read (Fin.ofNat 4096 (line * 16 + column * 2)))
        (memory.read (Fin.ofNat 4096 (line * 16 + column * 2 + 1))) = word := by
  by_cases inside : column < 8 <;> simp [lineWords, inside]

/-- A line with a word that is not zero has a byte that is not zero. -/
theorem exists_read_ne_zero {line : Nat} (inside : line < 256)
    (nonzero : (lineWords memory line).all (· == 0) = false) :
    ∃ address : Address, line * 16 ≤ address.val ∧ address.val ≤ line * 16 + 15 ∧
      memory.read address ≠ 0 := by
  obtain ⟨word, member, notZero⟩ := List.all_eq_false.mp nonzero
  obtain ⟨column, found⟩ := List.mem_iff_getElem?.mp member
  obtain ⟨narrow, rfl⟩ := getElem?_lineWords.mp found
  have within (place : Nat) (below : place ≤ 15) :
      (Fin.ofNat 4096 (line * 16 + place)).val = line * 16 + place :=
    Nat.mod_eq_of_lt (by omega)
  by_cases high : memory.read (Fin.ofNat 4096 (line * 16 + column * 2)) = 0
  · by_cases low : memory.read (Fin.ofNat 4096 (line * 16 + (column * 2 + 1))) = 0
    · rw [high, Nat.add_assoc, low] at notZero
      exact absurd rfl notZero
    · have place := within (column * 2 + 1) (by omega)
      exact ⟨_, by omega, by omega, low⟩
  · have place := within (column * 2) (by omega)
    exact ⟨_, by omega, by omega, high⟩

/-- A proper row that tells what a memory holds is a row of a canonical listing. -/
theorem MemoryRow.Shows.tells {row : MemoryRow} (shows : row.Shows memory) (proper : row.IsProper) :
    row.Tells memory := by
  cases shows with
  | words line inside =>
    refine ⟨exists_read_ne_zero inside proper.2, by simp [lineWords], ?_⟩
    intro column word found
    obtain ⟨narrow, rfl⟩ := getElem?_lineWords.mp found
    exact read_inside memory (by omega)
  | zeros first last ordered inside empty => exact ⟨ordered, empty⟩

/-- The rows of a listing follow each other without a gap. -/
theorem Listing.contiguous {start : Nat} {rows : List MemoryRow}
    (listing : Listing memory start rows) : Contiguous start rows := by
  induction listing with
  | done => rfl
  | row _ _ inductionHypothesis => exact ⟨rfl, inductionHypothesis⟩

/-- A row of a canonical listing does not end before it begins. -/
theorem MemoryRow.Tells.ordered {row : MemoryRow} (tells : row.Tells memory) :
    row.first ≤ row.last := by
  cases row with
  | words first content => exact Nat.le_add_right first 15
  | zeros first last => exact tells.1

namespace Canonical

variable {start : Nat} {row : MemoryRow} {rows others : List MemoryRow}

/-- The first row begins where the listing does, and tells what it has to tell. -/
theorem head (canonical : Canonical memory start (row :: rows)) :
    row.first = start ∧ row.Tells memory :=
  ⟨canonical.contiguous.1, (List.forall_mem_cons.mp canonical.told).1⟩

/-- What is behind the first row is canonical, too. -/
theorem behind (canonical : Canonical memory start (row :: rows)) :
    Canonical memory (row.last + 1) rows where
  contiguous := canonical.contiguous.2
  aligned := (List.forall_mem_cons.mp canonical.aligned).2
  told := (List.forall_mem_cons.mp canonical.told).2
  merged := by
    cases rows with
    | nil => exact .nil
    | cons next rows => exact (List.isChain_cons_cons.mp canonical.merged).2

end Canonical

end Dump

end ChipEight
