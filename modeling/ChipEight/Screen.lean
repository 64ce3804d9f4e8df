import ChipEight.Word

/-!
# The screen

The screen has 32 rows of 64 pixels, each on or off. A row is one word of 64 bits whose most
significant bit is the leftmost pixel. Drawing flips pixels: a row of a sprite is a mask that
is combined with a screen row, rotated to its column so that it wraps around the right edge.
Coordinates beyond an edge wrap around.

Every operation is determined by what it does to single pixels, through the view `pixel`.
-/

namespace ChipEight

/-- The rows from top to bottom. -/
structure Screen where
  rows : Vector (BitVec 64) 32
  deriving DecidableEq

/-- A lit pixel as a point of a plane whose vertical axis points up: the top row lies at
height zero and the rows below it at negative heights. -/
structure Point where
  column : Fin 64
  row : Fin 32
  deriving DecidableEq, Repr

namespace Point

/-- The coordinates of a point. The height of a row is minus its number. -/
def place (point : Point) : Int × Int := (point.column.val, -point.row.val)

/-- Coordinates are spelled with one decimal place. The height carries its minus sign in the
top row, too. -/
def text (point : Point) : String :=
  point.place.1.natAbs.repr ++ ".0,-" ++ point.place.2.natAbs.repr ++ ".0"

end Point

namespace Screen

/-- Every pixel is off. -/
def blank : Screen := ⟨Vector.replicate 32 0⟩

/-- The state of one pixel. -/
def pixel (screen : Screen) (column : Fin 64) (row : Fin 32) : Bool :=
  screen.rows[row].getMsbD column.val

/-- The state of the pixel at coordinates that may lie beyond an edge. -/
def pixelAt (screen : Screen) (x y : Nat) : Bool :=
  screen.pixel (Fin.ofNat 64 x) (Fin.ofNat 32 y)

/-- Flips the pixels of a row that a mask selects, and tells whether one of them was lit. -/
def flipRow (screen : Screen) (row : Fin 32) (mask : BitVec 64) : Screen × Bool :=
  (⟨screen.rows.set row (screen.rows[row] ^^^ mask)⟩, screen.rows[row] &&& mask != 0)

/-- The eight pixels of a sprite row, with its leftmost pixel in a column. -/
def spriteMask (x : Nat) (byte : Byte) : BitVec 64 :=
  ((byte.toBitVec.setWidth 64) <<< 56).rotateRight (x % 64)

/-- Flips one pixel and tells its new state. -/
def toggle (screen : Screen) (x y : Nat) : Screen × Bool :=
  let flipped := (screen.flipRow (Fin.ofNat 32 y) (spriteMask x 0x80)).1
  (flipped, flipped.pixelAt x y)

/-- Draws the rows of a sprite below one another, the first at the given place. The answer
tells whether a pixel was switched off on the way. -/
def draw (screen : Screen) (x y : Nat) : List Byte → Screen × Bool
  | [] => (screen, false)
  | byte :: rest =>
    let (flipped, hit) := screen.flipRow (Fin.ofNat 32 y) (spriteMask x byte)
    let (drawn, later) := flipped.draw x (y + 1) rest
    (drawn, hit || later)

/-- No pixel is lit. -/
def isBlank (screen : Screen) : Bool := screen.rows.all (· == 0)

/-- The lit pixels, row by row from the top and from left to right. -/
def points (screen : Screen) : List Point :=
  (List.finRange 32).flatMap fun row =>
    ((List.finRange 64).filter fun column => screen.pixel column row).map fun column => ⟨column, row⟩

end Screen
end ChipEight
