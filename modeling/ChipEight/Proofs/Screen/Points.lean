import ChipEight.Proofs.Screen.Drawing
import Mathlib.Data.List.Nodup

/-!
# The lit pixels as points of a plane

A display is given the lit pixels as a list of points. The column of a pixel is the first coordinate of
its point; the second one is the height, which is zero in the top row and falls by one from row to row.

The list holds the point of every lit pixel once and no other point, and its order is that of reading:
the rows from the top, each from the left. So it loses nothing. Flipping the listed pixels of a blank
screen makes the screen they were taken from, and a list without points is that of a blank screen.
-/

namespace ChipEight

/-- The coordinates of the pixel at a place. -/
def pixelAtPlace (place : Int × Int) : Nat × Nat := (place.1.toNat, (-place.2).toNat)

/-- Of two places in the order of reading, the first is higher, or at the same height to the left. -/
def ReadsBefore (place other : Int × Int) : Prop :=
  other.2 < place.2 ∨ other.2 = place.2 ∧ place.1 < other.1

/-- Different points have different places. -/
theorem Point.place_injective : Function.Injective Point.place := by
  rintro ⟨column, row⟩ ⟨otherColumn, otherRow⟩ same
  obtain ⟨sameColumn, sameHeight⟩ := Prod.mk.inj same
  have columns : column = otherColumn := Fin.ext (Int.ofNat.inj sameColumn)
  have rows : row = otherRow := Fin.ext (Int.ofNat.inj (Int.neg_inj.mp sameHeight))
  rw [columns, rows]

/-- The place of a point is that of its pixel. -/
theorem pixelAtPlace_place (point : Point) :
    pixelAtPlace point.place = (point.column.val, point.row.val) := by
  simp [pixelAtPlace, Point.place]

namespace Screen

/-! ## What is listed, and in which order -/

/-- Exactly the lit pixels are listed. -/
theorem mem_points {screen : Screen} {point : Point} :
    point ∈ screen.points ↔ screen.pixel point.column point.row = true := by
  obtain ⟨column, row⟩ := point
  simp [points]

/-- The points come in the order of reading. Within a row the columns grow; and of two rows the upper one
comes first with all its points. -/
theorem points_ordered (screen : Screen) :
    (screen.points.map Point.place).Pairwise ReadsBefore := by
  rw [List.pairwise_map, points, List.pairwise_flatMap]
  constructor
  · intro row _
    rw [List.pairwise_map]
    refine ((List.pairwise_lt_finRange 64).filter _).imp fun {column other} left => ?_
    exact .inr ⟨rfl, Int.ofNat_lt.mpr left⟩
  · refine (List.pairwise_lt_finRange 32).imp fun {row other} above => ?_
    intro point listed pointBelow listedBelow
    obtain ⟨column, _, rfl⟩ := List.mem_map.mp listed
    obtain ⟨columnBelow, _, rfl⟩ := List.mem_map.mp listedBelow
    exact .inl (Int.neg_lt_neg (Int.ofNat_lt.mpr above))

/-- No place is listed twice, as none comes before itself. -/
theorem places_nodup (screen : Screen) : (screen.points.map Point.place).Nodup := by
  refine screen.points_ordered.imp ?_
  rintro place other before rfl
  rcases before with higher | ⟨_, left⟩
  · exact Int.lt_irrefl _ higher
  · exact Int.lt_irrefl _ left

/-- A lit pixel is listed once, an unlit one never. -/
theorem count_points (screen : Screen) (column : Fin 64) (row : Fin 32) :
    (screen.points.map Point.place).count (Point.place ⟨column, row⟩) =
      if screen.pixel column row then 1 else 0 := by
  have listed : Point.place ⟨column, row⟩ ∈ screen.points.map Point.place ↔
      screen.pixel column row = true :=
    (List.mem_map_of_injective Point.place_injective).trans mem_points
  rw [screen.places_nodup.count]
  exact if_congr listed rfl rfl

/-! ## Making the screen from its points -/

/-- A flip at a place reaches the pixel of this place only. -/
theorem liesOn_pixelAtPlace (point : Point) (column : Fin 64) (row : Fin 32) :
    liesOn column row (pixelAtPlace point.place) = true ↔ point = ⟨column, row⟩ := by
  obtain ⟨otherColumn, otherRow⟩ := point
  rw [pixelAtPlace_place]
  simp [liesOn, Nat.mod_eq_of_lt otherColumn.isLt, Nat.mod_eq_of_lt otherRow.isLt, Fin.ext_iff]

/-- The pixels of a blank screen are unlit. -/
theorem pixel_blank (column : Fin 64) (row : Fin 32) : blank.pixel column row = false := by
  simp [pixel, blank]

/-- Flipping the listed pixels of a blank screen makes the screen.

Proof: a pixel is flipped as often as it is listed, which is once if it is lit and never if it is not. -/
theorem flipEach_points (screen : Screen) :
    (blank.flipEach ((screen.points.map Point.place).map pixelAtPlace)).1 = screen := by
  refine eq_of_pixel fun column row => ?_
  have flips : ((screen.points.map Point.place).map pixelAtPlace).countP (liesOn column row) =
      if screen.pixel column row then 1 else 0 := by
    rw [← count_points, List.count, List.countP_map, List.countP_map, List.countP_map]
    refine List.countP_congr fun point _ => ?_
    simp only [Function.comp_apply, liesOn_pixelAtPlace, beq_iff_eq]
    exact Point.place_injective.eq_iff.symm
  rw [pixel_flipEach, flips, pixel_blank]
  cases screen.pixel column row <;> rfl

/-- A screen is blank iff no pixel is lit. -/
theorem isBlank_iff {screen : Screen} :
    screen.isBlank = true ↔ ∀ column row, screen.pixel column row = false := by
  constructor
  · intro isBlank column row
    have zero : screen.rows[row] = 0 := eq_of_beq (Vector.all_eq_true.mp isBlank row.val row.isLt)
    simp [pixel, zero]
  · intro unlit
    refine Vector.all_eq_true.mpr fun row inside => ?_
    refine beq_iff_eq.mpr (BitVec.eq_of_getMsbD_eq fun column within => ?_)
    exact (unlit ⟨column, within⟩ ⟨row, inside⟩).trans BitVec.getMsbD_zero.symm

/-- What a display is given of a screen.

Whatever was drawn before, the list of points holds the place `(column, -row)` once if the pixel in this
column and row is lit and not at all if it is not, and it holds no other place. The places come row by row
from the top and, within a row, from left to right. Flipping the pixels at these places, one after the
other, turns a blank screen into this one, and there are no points iff the screen is blank. -/
theorem points_list_the_screen (screen : Screen) :
    (∀ (column : Fin 64) (row : Fin 32),
      (screen.points.map Point.place).count ((column.val : Int), -(row.val : Int)) =
        if screen.pixel column row then 1 else 0) ∧
    (∀ place ∈ screen.points.map Point.place, ∃ (column : Fin 64) (row : Fin 32),
      screen.pixel column row = true ∧ place = ((column.val : Int), -(row.val : Int))) ∧
    (screen.points.map Point.place).Pairwise ReadsBefore ∧
    (blank.flipEach ((screen.points.map Point.place).map pixelAtPlace)).1 = screen ∧
    (screen.points = [] ↔ screen.isBlank = true) := by
  refine ⟨screen.count_points, ?_, screen.points_ordered, screen.flipEach_points, ?_⟩
  · intro place listed
    obtain ⟨point, member, rfl⟩ := List.mem_map.mp listed
    exact ⟨point.column, point.row, mem_points.mp member, rfl⟩
  · rw [isBlank_iff, List.eq_nil_iff_forall_not_mem]
    constructor
    · intro none column row
      exact Bool.eq_false_iff.mpr fun lit => none ⟨column, row⟩ (mem_points.mpr lit)
    · intro unlit point listed
      have lit := mem_points.mp listed
      simp [unlit] at lit

end Screen
end ChipEight
