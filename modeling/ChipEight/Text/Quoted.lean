import ChipEight.Text.Visible

/-!
# Quoted text

A text whose end has to be recognisable is written between double quotes. A quote or a
backslash inside it is written after a backslash, and so are the usual control characters
by their letters; any other character that leaves no mark is written by its number. An
apostrophe needs no backslash.
-/

namespace ChipEight.Quoted

/-- The characters that are written as a backslash and a letter. -/
def letter? : Char → Option Char
  | '\x00' => some '0'
  | '\t' => some 't'
  | '\n' => some 'n'
  | '\r' => some 'r'
  | '"' => some '"'
  | '\\' => some '\\'
  | _ => none

/-- A character by its number, in lower case hexadecimal without leading zeros. -/
def number (c : Char) : List Char :=
  "\\u\x7b".toList ++ Nat.toDigits 16 c.toNat ++ "\x7d".toList

/-- How a character is written between quotes. -/
def escape (c : Char) : List Char :=
  match letter? c with
  | some letter => ['\\', letter]
  | none => if Visible.isVisible c then [c] else number c

/-- A text between quotes. -/
def text (content : String) : String :=
  "\"" ++ String.ofList (content.toList.flatMap escape) ++ "\""

/-- Several texts, each between quotes. -/
def list (contents : List String) : String :=
  "[" ++ ", ".intercalate (contents.map text) ++ "]"

end ChipEight.Quoted
