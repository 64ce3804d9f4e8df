import ChipEight.Word

/-!
# Code page 437

A character set of one byte a character. The lower half agrees with the first 128
characters; the upper half has accented letters, lines and mathematical signs.
-/

namespace ChipEight.CodePage437

/-- The characters of the upper half, sixteen a row. -/
def upperHalf : Array Char :=
  ("ÇüéâäàåçêëèïîìÄÅ" ++
   "ÉæÆôöòûùÿÖÜ¢£¥₧ƒ" ++
   "áíóúñÑªº¿⌐¬½¼¡«»" ++
   "░▒▓│┤╡╢╖╕╣║╗╝╜╛┐" ++
   "└┴┬├─┼╞╟╚╔╩╦╠═╬╧" ++
   "╨╤╥╙╘╒╓╫╪┘┌█▄▌▐▀" ++
   "αßΓπΣσµτΦΘΩδ∞φε∩" ++
   "≡±≥≤⌠⌡÷≈°∙·√ⁿ²■\u00A0").toList.toArray

/-- The character of a byte. -/
def character (byte : Byte) : Char :=
  if byte.toNat < 128 then Char.ofNat byte.toNat else upperHalf.getD (byte.toNat - 128) '?'

/-- The text of a sequence of bytes. -/
def text (bytes : List Byte) : String := String.ofList (bytes.map character)

end ChipEight.CodePage437
