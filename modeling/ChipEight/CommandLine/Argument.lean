/-!
# Arguments of a command line

An argument is told apart by its dashes. Two dashes introduce a name, which may be followed
by an equals sign and a value; the value starts behind the first equals sign and may be any
text. One dash introduces letters. Two dashes alone separate what follows. Everything else is
plain, a single dash and the empty text included.
-/

namespace ChipEight

/-- An argument by its form. -/
inductive Argument
  | separator
  | named (name : List Char) (value : Option (List Char))
  | letters (first : Char) (others : List Char)
  | plain
  deriving DecidableEq, Repr

namespace Argument

/-- Divides a text at the first equals sign. -/
def divide (text : List Char) : List Char × Option (List Char) :=
  (text.takeWhile (· ≠ '='), (text.dropWhile (· ≠ '=')).tail?)

/-- The form of an argument. -/
def ofChars : List Char → Argument
  | ['-', '-'] => .separator
  | '-' :: '-' :: text => let (name, value) := divide text; .named name value
  | '-' :: first :: others => .letters first others
  | _ => .plain

/-- Two dashes with anything behind them introduce a name. -/
theorem ofChars_named {text : List Char} (follows : text ≠ []) :
    ofChars ('-' :: '-' :: text) = .named (divide text).1 (divide text).2 := by
  cases text with
  | nil => exact absurd rfl follows
  | cons c rest => rfl

/-- A text without an equals sign is not divided. -/
theorem divide_of_notMem {name : List Char} (plain : '=' ∉ name) : divide name = (name, none) := by
  induction name with
  | nil => rfl
  | cons c rest induction =>
    have here : c ≠ '=' := fun same => plain (same ▸ List.mem_cons_self)
    have later := induction fun member => plain (List.mem_cons_of_mem c member)
    simpa [divide, here] using later

/-- A text is divided at its first equals sign, whatever follows. -/
theorem divide_append {name : List Char} (plain : '=' ∉ name) (value : List Char) :
    divide (name ++ '=' :: value) = (name, some value) := by
  induction name with
  | nil => rfl
  | cons c rest induction =>
    have here : c ≠ '=' := fun same => plain (same ▸ List.mem_cons_self)
    have later := induction fun member => plain (List.mem_cons_of_mem c member)
    simpa [divide, here] using later

end Argument
end ChipEight
