import ChipEight.CommandLine.Argument
import ChipEight.CommandLine.Declaration

/-!
# Reading arguments

Reads arguments for any program by the options that it declares. An option with a value is
written as `--name=value` or as two arguments; in the second form the value may not start with a
dash, unless it is a dash. Every program has a switch that asks for help.

Arguments are read from the left. An option in two arguments is settled only when the next
option is met, or at the end: it is there that its value is looked at, or missed. What is
not known is refused at once, even while an option before it is not settled.
-/

namespace ChipEight

/-- The switch that asks for help. -/
def Declaration.help : Declaration := ⟨"help", .nothing, none⟩

/-- The letter that asks for help. -/
def Declaration.helpLetter : Char := 'h'

/-- The option of a name. There are no abbreviations. -/
def Declaration.ofName? (table : List Declaration) (name : List Char) : Option Declaration :=
  (table ++ [help]).find? fun option => option.name.toList = name

/-- The kind of a refusal of a value. -/
def Intake.refusal : Intake → Refusal
  | number _ => .invalidNumber
  | nothing | text | path => .missingValue

/-- What was found so far, by the names of the options, the latest first. -/
abbrev Findings := List (String × Value)

namespace Findings

/-- Takes an option with a value. A second one is refused before its value is looked at. -/
def take (found : Findings) (option : Declaration) (text : String) : Except Refusal Findings :=
  if (found.lookup option.name).isSome then .error .repeated
  else
    match option.intake.read? text with
    | some value => .ok ((option.name, value) :: found)
    | none => .error option.intake.refusal

/-- Turns a switch. Asking for help refuses everything else. -/
def turn (found : Findings) (option : Declaration) : Except Refusal Findings :=
  if option = .help then .error .helpRequested
  else if (found.lookup option.name).isSome then .error .repeated
  else .ok ((option.name, .given) :: found)

/-- What was found, with the defaults for the rest. -/
def matched (found : Findings) (table : List Declaration) : Matches := fun name =>
  (found.lookup name).or ((table.find? (·.name = name)).bind Declaration.default?)

end Findings

/-- An option in two arguments, with its value once that has come. -/
structure Unsettled where
  option : Declaration
  value : Option String
  deriving DecidableEq, Repr

/-- The arguments read so far: what was found, and the last option if it is not settled yet. -/
structure Reading where
  found : Findings := []
  last : Option Unsettled := none
  deriving DecidableEq, Repr

namespace Reading

/-- Settles the last option. -/
def settle (reading : Reading) : Except Refusal Findings :=
  match reading.last with
  | none => .ok reading.found
  | some ⟨_, none⟩ => .error .missingValue
  | some ⟨option, some value⟩ => reading.found.take option value

/-- A named argument. An option with a value at hand is settled here. -/
def takeNamed (table : List Declaration) (reading : Reading) (name : List Char)
    (value : Option (List Char)) : Except Refusal Reading :=
  match Declaration.ofName? table name with
  | none => throw .unknownArgument
  | some option =>
    match option.intake.takesValue, value with
    | true, some value => do
      return { found := ← (← reading.settle).take option (String.ofList value) }
    | true, none => do return { found := ← reading.settle, last := some ⟨option, none⟩ }
    | false, none => do return { found := ← (← reading.settle).turn option }
    | false, some _ => throw .unexpectedValue

/-- Letters ask for help or are unknown. Only the first one counts. -/
def takeLetters (reading : Reading) (first : Char) : Except Refusal Reading :=
  if first = Declaration.helpLetter then do return { found := ← (← reading.settle).turn .help }
  else throw .unknownArgument

/-- A plain argument is the value of an option that lacks one. -/
def takePlain (reading : Reading) (text : String) : Except Refusal Reading :=
  match reading.last with
  | some ⟨option, none⟩ => return { reading with last := some ⟨option, some text⟩ }
  | _ => throw .unknownArgument

/-- Reads arguments one after the other. Nothing may follow a separator. -/
def read (table : List Declaration) (reading : Reading) : List String → Except Refusal Findings
  | [] => reading.settle
  | text :: rest =>
    match Argument.ofChars text.toList with
    | .separator => if rest.isEmpty then reading.settle else .error .unknownArgument
    | .named name value => do (← reading.takeNamed table name value).read table rest
    | .letters first _ => do (← reading.takeLetters first).read table rest
    | .plain => do (← reading.takePlain text).read table rest

/-- Reads the arguments of a program. -/
def library : ArgumentLibrary := fun table arguments => do
  return (← ({} : Reading).read table arguments).matched table

end Reading
end ChipEight
