import ChipEight.CommandLine
import ChipEight.Proofs.CommandLine.Documented
import Mathlib.Data.List.Perm.Basic

/-!
# Arguments in any order

What is chosen for a run can be written as arguments that carry their values behind an equals sign, one
for each choice. The options of a run are read back from them in every order, by any library that keeps
its promises about the declared options. So the theory is about the declarations: that the names are
apart, that the defaults are values, that the digits of a number are read as the number, and that what
is found for each option ends up in its own place.

A value is any text, and it may look like an argument itself. Only a frequency can be refused here: it
has to be a number of 64 bits that is not zero.
-/

namespace ChipEight

/-- What is chosen for a run. -/
structure Choices where
  rom : Option String := none
  archive : Option String := none
  debug : Bool := false
  hertz : Option Nat := none
  logFile : Option String := none
  deriving DecidableEq, Repr

namespace Choices

/-- Arguments that make the choices, one for each. -/
def arguments (choices : Choices) : List String :=
  (choices.rom.map ("--rom=" ++ ·)).toList
    ++ (choices.archive.map ("--archive=" ++ ·)).toList
    ++ (if choices.debug then ["--debug"] else [])
    ++ (choices.hertz.map fun hertz => "--hz=" ++ hertz.repr).toList
    ++ (choices.logFile.map ("--log-file=" ++ ·)).toList

/-- The options that are given by the choices. -/
def givings (choices : Choices) : List Giving :=
  (choices.rom.map fun rom => ⟨Declared.rom, some rom⟩).toList
    ++ (choices.archive.map fun archive => ⟨Declared.archive, some archive⟩).toList
    ++ (if choices.debug then [⟨Declared.debug, none⟩] else [])
    ++ (choices.hertz.map fun hertz => ⟨Declared.hertz, some hertz.repr⟩).toList
    ++ (choices.logFile.map fun logFile => ⟨Declared.logFile, some logFile⟩).toList

end Choices

namespace Declared

/-- The options of a run can be declared. -/
theorem table_sound : Declaration.Sound table where
  distinct := by decide
  begins := by decide
  plain := by decide
  unreserved := by decide
  defaults := by decide

end Declared

namespace Choices
open Giving

variable {choices : Choices} {giving : Giving}

/-! ## The choices one by one -/

/-- The options that are given are those that are chosen. -/
theorem mem_givings : giving ∈ choices.givings ↔
    (∃ rom, choices.rom = some rom ∧ ⟨Declared.rom, some rom⟩ = giving) ∨
      (∃ archive, choices.archive = some archive ∧ ⟨Declared.archive, some archive⟩ = giving) ∨
      (choices.debug = true ∧ giving = ⟨Declared.debug, none⟩) ∨
      (∃ hertz, choices.hertz = some hertz ∧ ⟨Declared.hertz, some hertz.repr⟩ = giving) ∨
      (∃ logFile, choices.logFile = some logFile ∧ ⟨Declared.logFile, some logFile⟩ = giving) := by
  simp [givings]

/-- The arguments of the choices are those of the options that they give. -/
theorem arguments_eq (choices : Choices) : choices.arguments = choices.givings.map text := by
  have spelled (opening : String) (option : Declaration) (same : "--" ++ option.name ++ "=" = opening)
      (value : Option String) : (value.map (opening ++ ·)).toList =
        (value.map fun value => (⟨option, some value⟩ : Giving)).toList.map text := by
    subst same
    cases value with
    | none => rfl
    | some value => simp [text, name, String.append_assoc]
  have hertz : (choices.hertz.map fun hertz => "--hz=" ++ hertz.repr).toList =
      (choices.hertz.map fun hertz =>
        (⟨Declared.hertz, some hertz.repr⟩ : Giving)).toList.map text := by
    cases choices.hertz with
    | none => rfl
    | some hertz => simpa using spelled "--hz=" Declared.hertz (by decide) (some hertz.repr)
  have debug : (if choices.debug then ["--debug"] else []) =
      (if choices.debug then [(⟨Declared.debug, none⟩ : Giving)] else []).map text := by
    cases choices.debug with
    | false => rfl
    | true => simpa [text, name] using (by decide : "--debug" = "--" ++ Declared.debug.name)
  rw [arguments, givings, spelled "--rom=" Declared.rom (by decide),
    spelled "--archive=" Declared.archive (by decide),
    spelled "--log-file=" Declared.logFile (by decide), hertz, debug]
  simp only [List.map_append]

/-- The names of the options that are given. -/
theorem names_givings (choices : Choices) : choices.givings.map name =
    (choices.rom.map fun _ => "rom").toList ++ (choices.archive.map fun _ => "archive").toList
      ++ (if choices.debug then ["debug"] else []) ++ (choices.hertz.map fun _ => "hz").toList
      ++ (choices.logFile.map fun _ => "log-file").toList := by
  obtain ⟨rom, archive, debug, hertz, logFile⟩ := choices
  cases rom <;> cases archive <;> cases debug <;> cases hertz <;> cases logFile <;> rfl

/-- No option is given twice. -/
theorem givings_distinct (choices : Choices) : (choices.givings.map name).Nodup := by
  have part : (choices.givings.map name).Sublist ["rom", "archive", "debug", "hz", "log-file"] := by
    have single {α : Type} (name : String) (value : Option α) :
        (value.map fun _ => name).toList.Sublist [name] := by
      cases value <;> simp
    have debug : (if choices.debug then ["debug"] else []).Sublist ["debug"] := by
      cases choices.debug <;> simp
    rw [names_givings]
    exact ((((single "rom" _).append (single "archive" _)).append debug).append
      (single "hz" _)).append (single "log-file" _)
  exact part.nodup (by decide)

/-- Declared options are given, each with a value iff it takes one. -/
theorem suits_of_mem (member : giving ∈ choices.givings) : giving.Suits Declared.table := by
  rcases mem_givings.mp member with ⟨rom, -, rfl⟩ | ⟨archive, -, rfl⟩ | ⟨-, rfl⟩ | ⟨hertz, -, rfl⟩ |
    ⟨logFile, -, rfl⟩ <;> exact ⟨by simp [Declared.table], rfl⟩

/-- A path that is not empty is one. -/
theorem path_read? {path : Option String} (known : path ≠ some "") {value : String}
    (chosen : path = some value) : Intake.path.read? value = some (.text value) := by
  have named : value ≠ "" := fun empty => known (empty ▸ chosen)
  rw [Intake.read?, if_neg named]

/-- A frequency is read iff it is one. -/
theorem hertz_read? (hertz : Nat) :
    (⟨Declared.hertz, some hertz.repr⟩ : Giving).read? =
      if 1 ≤ hertz ∧ hertz < UInt64.size then some (.number hertz) else none :=
  Intake.read?_repr 1 hertz

/-- Of choices with paths that are not empty, only a frequency can be no value, and then it is out of its
bounds. -/
theorem hertz_of_unread (archive : choices.archive ≠ some "") (logFile : choices.logFile ≠ some "")
    (member : giving ∈ choices.givings) (unread : giving.read? = none) :
    ∃ hertz, choices.hertz = some hertz ∧ giving = ⟨Declared.hertz, some hertz.repr⟩ ∧
      ¬ (1 ≤ hertz ∧ hertz < UInt64.size) := by
  rcases mem_givings.mp member with ⟨rom, -, rfl⟩ | ⟨value, chosen, rfl⟩ | ⟨-, rfl⟩ |
    ⟨hertz, chosen, rfl⟩ | ⟨value, chosen, rfl⟩
  · nomatch unread
  · nomatch (path_read? archive chosen).symm.trans unread
  · nomatch unread
  · refine ⟨hertz, chosen, rfl, fun within => ?_⟩
    rw [hertz_read?, if_pos within] at unread
    nomatch unread
  · nomatch (path_read? logFile chosen).symm.trans unread

/-! ## What is found -/

variable {library : ArgumentLibrary} {made : List Giving} {found : Matches}

/-- Arguments of the choices in any order are those of what they give in some order. -/
theorem exists_order {given : List String} (order : given.Perm choices.arguments) :
    ∃ made : List Giving, given = made.map text ∧ made.Perm choices.givings := by
  rw [arguments_eq] at order
  exact (congrFun₂ (List.eq_map_comp_perm text) given choices.givings).mpr order

/-- What an accepting library finds for an option with a value: the chosen value, or the default. -/
theorem found_of_chosen (documented : library.IsDocumented) (order : made.Perm choices.givings)
    (accepted : library Declared.table (made.map text) = .ok found) (option : Declaration)
    (declared : option ∈ Declared.table) (takes : option.intake.takesValue = true)
    (chosen : Option String) (given : ∀ value, chosen = some value → ⟨option, some value⟩ ∈ choices.givings)
    (absent : chosen = none → option.name ∉ choices.givings.map name) :
    found option.name = (chosen.map option.intake.read?).getD option.default? := by
  have suits : ∀ giving ∈ made, giving.Suits Declared.table := fun giving member =>
    suits_of_mem (order.mem_iff.mp member)
  cases chosen with
  | some value =>
    have member : ⟨option, some value⟩ ∈ made := order.mem_iff.mpr (given value rfl)
    have stored : found option.name = (⟨option, some value⟩ : Giving).read? :=
      documented.stores Declared.table_sound suits accepted _ member
    simpa [read?, takes] using stored
  | none =>
    have missing : option.name ∉ made.map name := fun named =>
      absent rfl ((order.map name).mem_iff.mp named)
    exact documented.defaults Declared.table_sound suits accepted option declared missing

/-- What an accepting library finds for the switch. -/
theorem found_debug (documented : library.IsDocumented) (order : made.Perm choices.givings)
    (accepted : library Declared.table (made.map text) = .ok found) :
    found.isGiven Declared.debug = choices.debug := by
  have suits : ∀ giving ∈ made, giving.Suits Declared.table := fun giving member =>
    suits_of_mem (order.mem_iff.mp member)
  cases chosen : choices.debug with
  | true =>
    have member : ⟨Declared.debug, none⟩ ∈ made :=
      order.mem_iff.mpr (mem_givings.mpr (.inr (.inr (.inl ⟨chosen, rfl⟩))))
    have stored : found Declared.debug.name = some .given :=
      documented.stores Declared.table_sound suits accepted _ member
    rw [Matches.isGiven, stored]
    rfl
  | false =>
    have missing : Declared.debug.name ∉ made.map name := by
      rw [(order.map name).mem_iff, names_givings, chosen]
      simp [Declared.debug]
    have default : found Declared.debug.name = none :=
      documented.defaults Declared.table_sound suits accepted _ (by decide) missing
    rw [Matches.isGiven, default]
    rfl

/-- The options of the choices are made of what an accepting library finds. -/
theorem ofMatches_found (documented : library.IsDocumented) (order : made.Perm choices.givings)
    (accepted : library Declared.table (made.map text) = .ok found)
    (archive : choices.archive ≠ some "") (logFile : choices.logFile ≠ some "")
    (within : ∀ hertz, choices.hertz = some hertz → 1 ≤ hertz ∧ hertz < UInt64.size) :
    Options.ofMatches found =
      .ok { rom := choices.rom.getD "roms/pong.ch8"
            archive := choices.archive
            debug := choices.debug
            hertz := choices.hertz.getD 500
            logFile := choices.logFile.getD "chip8-term.log" } := by
  have rom : found.text? Declared.rom = some (choices.rom.getD "roms/pong.ch8") := by
    have value := found_of_chosen documented order accepted Declared.rom (by decide) rfl
      choices.rom (fun rom chosen => mem_givings.mpr (.inl ⟨rom, chosen, rfl⟩))
      fun none => by simp [names_givings, none, Declared.rom]
    rw [Matches.text?, value]
    cases choices.rom <;> rfl
  have path : found.text? Declared.archive = choices.archive := by
    have value := found_of_chosen documented order accepted Declared.archive (by decide)
      rfl choices.archive
      (fun archive chosen => mem_givings.mpr (.inr (.inl ⟨archive, chosen, rfl⟩)))
      fun none => by simp [names_givings, none, Declared.archive]
    rw [Matches.text?, value]
    cases chosen : choices.archive with
    | none => rfl
    | some path => simp [Declared.archive, path_read? archive chosen]
  have hertz : found.number? Declared.hertz = some (choices.hertz.getD 500) := by
    have value := found_of_chosen documented order accepted Declared.hertz (by decide)
      rfl (choices.hertz.map Nat.repr) (fun digits chosen => by
        obtain ⟨hertz, here, rfl⟩ := Option.map_eq_some_iff.mp chosen
        exact mem_givings.mpr (.inr (.inr (.inr (.inl ⟨hertz, here, rfl⟩)))))
      fun none => by simp [names_givings, Option.map_eq_none_iff.mp none, Declared.hertz]
    rw [Matches.number?, value]
    cases chosen : choices.hertz with
    | none => decide +kernel
    | some hertz => simp [Declared.hertz, Intake.read?_repr, within hertz chosen]
  have file : found.text? Declared.logFile = some (choices.logFile.getD "chip8-term.log") := by
    have value := found_of_chosen documented order accepted Declared.logFile (by decide)
      rfl choices.logFile
      (fun logFile chosen => mem_givings.mpr (.inr (.inr (.inr (.inr ⟨logFile, chosen, rfl⟩)))))
      fun none => by simp [names_givings, none, Declared.logFile]
    rw [Matches.text?, value]
    cases chosen : choices.logFile with
    | none => decide +kernel
    | some file => simp [Declared.logFile, path_read? logFile chosen]
  rw [Options.ofMatches, rom, hertz, file, path, found_debug documented order accepted]

end Choices

namespace Options
open Choices Giving

/-- The options are read back from their arguments in any order, by any library that keeps its promises,
iff the frequency that is chosen is one. Otherwise the frequency is refused as no number. -/
theorem arguments_in_any_order (library : ArgumentLibrary) (documented : library.IsDocumented)
    (choices : Choices) (archive : choices.archive ≠ some "") (logFile : choices.logFile ≠ some "")
    {arguments : List String} (order : arguments.Perm choices.arguments) :
    (Options.read library arguments =
        .ok { rom := choices.rom.getD "roms/pong.ch8"
              archive := choices.archive
              debug := choices.debug
              hertz := choices.hertz.getD 500
              logFile := choices.logFile.getD "chip8-term.log" } ↔
      ∀ hertz, choices.hertz = some hertz → 1 ≤ hertz ∧ hertz < UInt64.size) ∧
      ∀ hertz, choices.hertz = some hertz → hertz = 0 ∨ UInt64.size ≤ hertz →
        Options.read library arguments = .error .invalidNumber := by
  obtain ⟨made, rfl, arranged⟩ := exists_order order
  have suits : ∀ giving ∈ made, giving.Suits Declared.table := fun giving member =>
    suits_of_mem (arranged.mem_iff.mp member)
  have distinct : (made.map name).Nodup := (arranged.map name).nodup_iff.mpr choices.givings_distinct
  have refused (hertz : Nat) (chosen : choices.hertz = some hertz)
      (out : ¬ (1 ≤ hertz ∧ hertz < UInt64.size)) :
      Options.read library (made.map text) = .error .invalidNumber := by
    have member : ⟨Declared.hertz, some hertz.repr⟩ ∈ made :=
      arranged.mem_iff.mpr (mem_givings.mpr (.inr (.inr (.inr (.inl ⟨hertz, chosen, rfl⟩)))))
    have unread : (⟨Declared.hertz, some hertz.repr⟩ : Giving).read? = none := by
      rw [hertz_read?, if_neg out]
    rw [Options.read, documented.refuses Declared.table_sound suits distinct ⟨_, member, unread⟩]
    · rfl
    · intro giving member unread
      obtain ⟨_, -, rfl, -⟩ :=
        hertz_of_unread archive logFile (arranged.mem_iff.mp member) unread
      rfl
  refine ⟨⟨fun accepted hertz chosen => ?_, fun within => ?_⟩, fun hertz chosen out => ?_⟩
  · by_contra out
    nomatch accepted.symm.trans (refused hertz chosen out)
  · have values : ∀ giving ∈ made, giving.read?.isSome = true := by
      intro giving member
      by_contra unread
      obtain ⟨hertz, chosen, -, out⟩ := hertz_of_unread archive logFile (arranged.mem_iff.mp member)
        (Option.not_isSome_iff_eq_none.mp unread)
      exact out (within hertz chosen)
    obtain ⟨found, accepted⟩ := documented.accepts Declared.table_sound suits distinct values
    rw [Options.read, accepted]
    exact ofMatches_found documented arranged accepted archive logFile within
  · exact refused hertz chosen fun within => by omega

/-- Values that look like arguments, and an archive of dashes, are read back in another order than that of
the choices. A frequency that does not fit into 64 bits is refused, whatever comes behind it. -/
theorem values_like_arguments :
    Options.read Reading.library
        ["--log-file==", "--debug", "--hz=18446744073709551615", "--rom=--hz=0 -h", "--archive=--"] =
      .ok { rom := "--hz=0 -h", archive := some "--", debug := true,
            hertz := 18446744073709551615, logFile := "=" } ∧
      Options.read Reading.library ["--hz=18446744073709551616", "--rom=--"] =
        .error .invalidNumber :=
  ⟨(arguments_in_any_order Reading.library Reading.library_isDocumented
      { rom := some "--hz=0 -h", archive := some "--", debug := true,
        hertz := some 18446744073709551615, logFile := some "=" }
      (by decide) (by decide) (by decide +kernel)).1.mpr (by decide +kernel),
    (arguments_in_any_order Reading.library Reading.library_isDocumented
      { rom := some "--", hertz := some 18446744073709551616 }
      (by decide) (by decide) (by decide +kernel)).2 18446744073709551616 rfl (by decide)⟩

end Options

end ChipEight
