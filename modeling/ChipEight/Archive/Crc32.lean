import ChipEight.Word

/-!
# Checksums

A checksum of 32 bits tells whether content arrived unchanged. The bytes are taken as the
coefficients of a polynomial over the field of two elements, the lowest bit of a byte first,
and the checksum is the remainder of a division, complemented before and after.
-/

namespace ChipEight.Crc32

/-- The divisor without its leading coefficient, the lowest bit standing for the highest
power. -/
def divisor : UInt32 := 0xEDB88320

/-- One step of the division: the remainder moves by one power. -/
def shift (remainder : UInt32) : UInt32 :=
  if remainder &&& 1 = 1 then (remainder >>> 1) ^^^ divisor else remainder >>> 1

/-- Takes one byte into the remainder. -/
def add (remainder : UInt32) (byte : Byte) : UInt32 :=
  Nat.repeat shift 8 (remainder ^^^ byte.toUInt32)

/-- The checksum of some content. -/
def checksum (content : Array Byte) : UInt32 := ~~~(content.foldl add (~~~0))

end ChipEight.Crc32
