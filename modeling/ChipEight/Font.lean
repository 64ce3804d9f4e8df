import ChipEight.Word

/-!
# The built-in font

Sixteen glyphs of five rows each stand at the start of the memory, one per hexadecimal
digit. Only the left half of a row is used. The font can be read but not written.
-/

namespace ChipEight.Font

/-- Rows of one glyph. -/
def glyphSize : Nat := 5

/-- The first byte of the font in memory. -/
def location : Nat := 0

/-- The rows of the glyphs `0` to `F`. -/
def bytes : Vector Byte 80 := #v[
  0xF0, 0x90, 0x90, 0x90, 0xF0,
  0x20, 0x60, 0x20, 0x20, 0x70,
  0xF0, 0x10, 0xF0, 0x80, 0xF0,
  0xF0, 0x10, 0xF0, 0x10, 0xF0,
  0x90, 0x90, 0xF0, 0x10, 0x10,
  0xF0, 0x80, 0xF0, 0x10, 0xF0,
  0xF0, 0x80, 0xF0, 0x90, 0xF0,
  0xF0, 0x10, 0x20, 0x40, 0x40,
  0xF0, 0x90, 0xF0, 0x90, 0xF0,
  0xF0, 0x90, 0xF0, 0x10, 0xF0,
  0xF0, 0x90, 0xF0, 0x90, 0x90,
  0xE0, 0x90, 0xE0, 0x90, 0xE0,
  0xF0, 0x80, 0x80, 0x80, 0xF0,
  0xE0, 0x90, 0x90, 0x90, 0xE0,
  0xF0, 0x80, 0xF0, 0x80, 0xF0,
  0xF0, 0x80, 0xF0, 0x80, 0x80]

/-- The addresses the font occupies. -/
def covers (address : Address) : Bool := address.val < 80

/-- Where the glyph of a value starts. Values above fifteen point past the font. -/
def glyphAddress (value : Byte) : Address := Fin.ofNat 4096 (location + glyphSize * value.toNat)

end ChipEight.Font
