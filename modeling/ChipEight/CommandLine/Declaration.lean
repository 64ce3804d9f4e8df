import ChipEight.Text.Decimal

/-!
# Declared options

A program declares the options that it has; a library reads arguments for it. This module says
what can be declared of an option, and what of the library is used: given the declarations and
the arguments, it answers what it found for each option, or refuses the arguments.

An option takes a value or none. A value is a text, and its kind says which texts are values and
what they are read as. An option that is not given has its default, if one is declared.

Any such library can be used. `Reading.library` is one.
-/

namespace ChipEight

/-- What an option takes. -/
inductive Intake
  /-- No value: the option is a switch. -/
  | nothing
  /-- Any text. -/
  | text
  /-- A text that is not empty. -/
  | path
  /-- A number of 64 bits, from a least one up. -/
  | number (least : Nat)
  deriving DecidableEq, Repr

/-- What was found for an option. -/
inductive Value
  /-- A switch was given. -/
  | given
  | text (text : String)
  | number (number : Nat)
  deriving DecidableEq, Repr

/-- Whether an option takes a value. -/
def Intake.takesValue : Intake → Bool
  | nothing => false
  | text | path | number _ => true

/-- Whether an option takes numbers. -/
def Intake.isNumber : Intake → Bool
  | number _ => true
  | nothing | text | path => false

/-- Reads a value. -/
def Intake.read? : Intake → String → Option Value
  | nothing, _ => none
  | text, value => some (.text value)
  | path, value => if value = "" then none else some (.text value)
  | number least, value =>
    ((Decimal.read? value.toList).filter fun number => least ≤ number && number < UInt64.size).map
      .number

/-- The digits of a number are read as the number iff it is within the bounds. -/
theorem Intake.read?_repr (least value : Nat) :
    (number least).read? value.repr =
      if least ≤ value ∧ value < UInt64.size then some (.number value) else none := by
  rw [read?, Nat.toList_repr, Decimal.read?_toDigits, Option.filter_some]
  by_cases within : least ≤ value ∧ value < UInt64.size
  · simp [within]
  · rw [if_neg within, if_neg (by simpa using within), Option.map_none]

/-- A declared option. -/
structure Declaration where
  /-- The name, behind two dashes. -/
  name : String
  intake : Intake
  /-- The default, as it would be written. -/
  default : Option String
  deriving DecidableEq, Repr

/-- The value of an option that is not given. -/
def Declaration.default? (option : Declaration) : Option Value :=
  option.default.bind option.intake.read?

/-- Why arguments are refused. -/
inductive Refusal
  | unknownArgument
  | missingValue
  | invalidNumber
  /-- An option is given twice. -/
  | repeated
  /-- There is a value where none is taken. -/
  | unexpectedValue
  /-- An option is not given that has no default. -/
  | missingOption
  /-- The user asks for help. -/
  | helpRequested
  deriving DecidableEq, Repr

/-- What was found for the option of a name. -/
abbrev Matches := (name : String) → Option Value

namespace Matches

/-- The text that was found for an option. -/
def text? (found : Matches) (option : Declaration) : Option String :=
  match found option.name with
  | some (.text text) => some text
  | _ => none

/-- The number that was found for an option. -/
def number? (found : Matches) (option : Declaration) : Option Nat :=
  match found option.name with
  | some (.number number) => some number
  | _ => none

/-- Whether a switch was given. -/
def isGiven (found : Matches) (option : Declaration) : Bool := found option.name == some .given

end Matches

/-- A library, by the way it reads arguments for a program with some options. -/
abbrev ArgumentLibrary :=
  (table : List Declaration) → (arguments : List String) → Except Refusal Matches

end ChipEight
