import ChipEight.CommandLine.Reading
import Mathlib.Data.List.Nodup

/-!
# What a library for arguments promises

An option can be given by one argument: two dashes and its name, and behind an equals sign the value if
it takes one. For such arguments a library promises what its documentation says of a declaration: options
can come in any order, each once; what was given is found as the value it stands for, whatever
characters it has; what was not given has its default; and a number that is out of its bounds is refused.

The library that reads arguments from the left keeps these promises. Arguments of this form are settled
as soon as they are read, so that reading a list of them is taking their options one after the other, and
what was found for an option stays until the end.
-/

namespace ChipEight

/-- A table that a program can declare. -/
structure Declaration.Sound (table : List Declaration) : Prop where
  distinct : (table.map Declaration.name).Nodup
  begins : ∀ option ∈ table, option.name.toList.head?.any Char.isAlpha = true
  plain : ∀ option ∈ table, '=' ∉ option.name.toList
  unreserved : ∀ option ∈ table, option.name ≠ "help"
  /-- A default is a value of its option. -/
  defaults : ∀ option ∈ table, option.default.isSome = true → option.default?.isSome = true

/-- An option as it is given by one argument, with the text of its value if there is one. -/
structure Giving where
  option : Declaration
  value : Option String

namespace Giving

/-- The name of the option. -/
def name (giving : Giving) : String := giving.option.name

/-- The argument. -/
def text (giving : Giving) : String :=
  "--" ++ giving.name ++ (giving.value.map ("=" ++ ·)).getD ""

/-- What is given, if the text is a value of the option. -/
def read? (giving : Giving) : Option Value :=
  match giving.option.intake.takesValue, giving.value with
  | true, some text => giving.option.intake.read? text
  | false, none => some .given
  | _, _ => none

/-- A declared option is given, with a value iff it takes one. -/
structure Suits (giving : Giving) (table : List Declaration) : Prop where
  declared : giving.option ∈ table
  whole : giving.value.isSome = giving.option.intake.takesValue

end Giving

/-- The promises of a library. -/
structure ArgumentLibrary.IsDocumented (library : ArgumentLibrary) : Prop where
  /-- Options are accepted in any order, if each is given once and with a value of its own. -/
  accepts : ∀ {table : List Declaration} {given : List Giving}, Declaration.Sound table →
    (∀ giving ∈ given, giving.Suits table) → (given.map Giving.name).Nodup →
    (∀ giving ∈ given, giving.read?.isSome = true) →
    ∃ found, library table (given.map Giving.text) = .ok found
  /-- What is given is found. The value starts behind the first equals sign. -/
  stores : ∀ {table : List Declaration} {given : List Giving} {found : Matches},
    Declaration.Sound table → (∀ giving ∈ given, giving.Suits table) →
    library table (given.map Giving.text) = .ok found →
    ∀ giving ∈ given, found giving.name = giving.read?
  /-- An option that is not given has its default. -/
  defaults : ∀ {table : List Declaration} {given : List Giving} {found : Matches},
    Declaration.Sound table → (∀ giving ∈ given, giving.Suits table) →
    library table (given.map Giving.text) = .ok found →
    ∀ option ∈ table, option.name ∉ given.map Giving.name → found option.name = option.default?
  /-- A number that is none, or is out of its bounds, is refused. -/
  refuses : ∀ {table : List Declaration} {given : List Giving}, Declaration.Sound table →
    (∀ giving ∈ given, giving.Suits table) → (given.map Giving.name).Nodup →
    (∃ giving ∈ given, giving.read? = none) →
    (∀ giving ∈ given, giving.read? = none → giving.option.intake.isNumber = true) →
    library table (given.map Giving.text) = .error .invalidNumber

/-! ## Single arguments -/

namespace Declaration.Sound

variable {table : List Declaration} {option : Declaration}

/-- An option has a name. -/
theorem name_ne_nil (sound : Sound table) (declared : option ∈ table) : option.name.toList ≠ [] := by
  intro empty
  have begins := sound.begins option declared
  simp [empty] at begins

/-- A declared option is found by its name. -/
theorem ofName?_name (sound : Sound table) (declared : option ∈ table) :
    ofName? table option.name.toList = some option := by
  obtain ⟨other, found⟩ : ∃ other,
      table.find? (fun other => other.name.toList = option.name.toList) = some other :=
    Option.isSome_iff_exists.mp (List.find?_isSome.mpr ⟨option, declared, by simp⟩)
  have same : other.name = option.name :=
    String.toList_inj.mp (by simpa using List.find?_some found)
  obtain rfl : other = option :=
    List.inj_on_of_nodup_map sound.distinct (List.mem_of_find?_eq_some found) declared same
  rw [ofName?, List.find?_append, found, Option.some_or]

/-- A declared option is found in its table by its name. -/
theorem find?_name (sound : Sound table) (declared : option ∈ table) :
    table.find? (fun other => other.name = option.name) = some option := by
  obtain ⟨other, found⟩ : ∃ other, table.find? (fun other => other.name = option.name) = some other :=
    Option.isSome_iff_exists.mp (List.find?_isSome.mpr ⟨option, declared, by simp⟩)
  have same : other.name = option.name := by simpa using List.find?_some found
  rw [found, List.inj_on_of_nodup_map sound.distinct (List.mem_of_find?_eq_some found) declared same]

end Declaration.Sound

namespace Giving

variable {table : List Declaration} {giving : Giving} {found : Findings}

/-- The option of an argument is taken, or its switch turned. -/
def make (found : Findings) (giving : Giving) : Except Refusal Findings :=
  match giving.value with
  | some text => found.take giving.option text
  | none => found.turn giving.option

/-- An argument makes its finding unless the option was found before, or the text is no value. -/
theorem make_eq (sound : Declaration.Sound table) (suits : giving.Suits table) :
    make found giving =
      if (found.lookup giving.name).isSome then .error .repeated
      else match giving.read? with
        | some value => .ok ((giving.name, value) :: found)
        | none => .error giving.option.intake.refusal := by
  have whole := suits.whole
  unfold make read?
  cases given : giving.value with
  | some text =>
    have takes : giving.option.intake.takesValue = true := by rw [← whole, given, Option.isSome_some]
    rw [takes]
    rfl
  | none =>
    have takes : giving.option.intake.takesValue = false := by rw [← whole, given, Option.isSome_none]
    have known : giving.option ≠ .help := fun same =>
      sound.unreserved _ suits.declared (congrArg Declaration.name same)
    simp only [takes, Findings.turn, known, if_false, name]

/-- The form of an argument. Its name ends at the first equals sign. -/
theorem ofChars_text (sound : Declaration.Sound table) (suits : giving.Suits table) :
    Argument.ofChars giving.text.toList =
      .named giving.name.toList (giving.value.map String.toList) := by
  have plain : '=' ∉ giving.name.toList := sound.plain _ suits.declared
  have filled : giving.name.toList ≠ [] := sound.name_ne_nil suits.declared
  unfold text
  cases giving.value with
  | none =>
    have spelled : ("--" ++ giving.name ++ ((none : Option String).map ("=" ++ ·)).getD "").toList =
        '-' :: '-' :: giving.name.toList := by simp
    rw [spelled, Argument.ofChars_named filled, Argument.divide_of_notMem plain, Option.map_none]
  | some value =>
    have spelled : ("--" ++ giving.name ++ ((some value).map ("=" ++ ·)).getD "").toList =
        '-' :: '-' :: (giving.name.toList ++ '=' :: value.toList) := by simp
    rw [spelled, Argument.ofChars_named (by simp), Argument.divide_append plain, Option.map_some]

/-- Reading an argument makes its finding. -/
theorem read_text (sound : Declaration.Sound table) (suits : giving.Suits table)
    (rest : List String) :
    (⟨found, none⟩ : Reading).read table (giving.text :: rest) =
      make found giving >>= fun next => (⟨next, none⟩ : Reading).read table rest := by
  have known : Declaration.ofName? table giving.name.toList = some giving.option :=
    sound.ofName?_name suits.declared
  have whole := suits.whole
  rw [Reading.read, ofChars_text sound suits]
  unfold make
  cases given : giving.value with
  | some text =>
    have takes : giving.option.intake.takesValue = true := by rw [← whole, given, Option.isSome_some]
    simp only [Reading.takeNamed, known, takes, Option.map_some, Reading.settle, String.ofList_toList]
    cases made : found.take giving.option text <;> simp [made, bind, Except.bind, pure, Except.pure]
  | none =>
    have takes : giving.option.intake.takesValue = false := by rw [← whole, given, Option.isSome_none]
    simp only [Reading.takeNamed, known, takes, Option.map_none, Reading.settle]
    cases made : found.turn giving.option <;> simp [made, bind, Except.bind, pure, Except.pure]

/-! ## Several arguments -/

variable {given : List Giving}

/-- Reading arguments makes their findings one after the other. -/
theorem read_texts (sound : Declaration.Sound table) (suits : ∀ giving ∈ given, giving.Suits table) :
    (⟨found, none⟩ : Reading).read table (given.map text) =
      given.foldlM make found := by
  induction given generalizing found with
  | nil => rfl
  | cons giving later inductionHypothesis =>
    obtain ⟨here, behind⟩ := List.forall_mem_cons.mp suits
    rw [List.map_cons, read_text sound here, List.foldlM_cons]
    exact congrArg (make found giving >>= ·) (funext fun _ => inductionHypothesis behind)

/-- The library makes the findings of its arguments, and fills in the defaults. -/
theorem library_texts (sound : Declaration.Sound table)
    (suits : ∀ giving ∈ given, giving.Suits table) :
    Reading.library table (given.map text) =
      (given.foldlM make []).map fun found => found.matched table := by
  rw [Reading.library, read_texts sound suits]
  cases given.foldlM make [] <;> rfl

/-- A finding of another name is the one that was there before. -/
theorem lookup_cons_ne {name other : String} (apart : name ≠ other) (value : Value) :
    ((other, value) :: found : Findings).lookup name = found.lookup name := by
  rw [List.lookup_cons, beq_eq_false_iff_ne.mpr apart]

/-- What becomes of the findings where every option was new.

Proof: by induction on the arguments. The finding of the first one stays, because none of the later ones
can have its name. -/
theorem findings_of_made (sound : Declaration.Sound table)
    (suits : ∀ giving ∈ given, giving.Suits table) {last : Findings}
    (made : given.foldlM make found = .ok last) :
    (∀ giving ∈ given, found.lookup giving.name = none ∧
      ∃ value, giving.read? = some value ∧ last.lookup giving.name = some value) ∧
      ∀ name, name ∉ given.map Giving.name → last.lookup name = found.lookup name := by
  induction given generalizing found with
  | nil =>
    obtain rfl := Except.ok.inj made
    exact ⟨nofun, fun _ _ => rfl⟩
  | cons giving later inductionHypothesis =>
    obtain ⟨here, behind⟩ := List.forall_mem_cons.mp suits
    rw [List.foldlM_cons, make_eq sound here] at made
    cases before : found.lookup giving.name with
    | some value => simp [before, bind, Except.bind] at made
    | none =>
      cases read : giving.read? with
      | none => simp [before, read, bind, Except.bind] at made
      | some value =>
        rw [before, read] at made
        obtain ⟨each, others⟩ := inductionHypothesis behind made
        have apart : ∀ other ∈ later, other.name ≠ giving.name := by
          intro other member same
          have absent := (each other member).1
          simp [same] at absent
        refine ⟨List.forall_mem_cons.mpr ⟨⟨before, value, read, ?_⟩, fun other member => ?_⟩, ?_⟩
        · have unnamed : giving.name ∉ later.map Giving.name := fun named => by
            obtain ⟨other, member, same⟩ := List.mem_map.mp named
            exact apart other member same
          simp [others giving.name unnamed]
        · obtain ⟨absent, found⟩ := each other member
          exact ⟨lookup_cons_ne (apart other member) value ▸ absent, found⟩
        · intro name unnamed
          obtain ⟨unlike, absent⟩ := not_or.mp (mt List.mem_cons.mpr unnamed)
          rw [others name absent, lookup_cons_ne unlike]

/-- What was not found stays so behind the finding of an option that does not come again. -/
theorem fresh_later {later : List Giving} (unnamed : giving.name ∉ later.map Giving.name)
    (fresh : ∀ other ∈ later, found.lookup other.name = none) (value : Value) :
    ∀ other ∈ later, ((giving.name, value) :: found : Findings).lookup other.name = none := by
  intro other member
  have apart : other.name ≠ giving.name := fun same => unnamed (same ▸ List.mem_map_of_mem member)
  rw [lookup_cons_ne apart]
  exact fresh other member

/-- A number that is refused is told to be none. -/
theorem refusal_of_isNumber {intake : Intake} (isNumber : intake.isNumber = true) :
    intake.refusal = .invalidNumber := by
  cases intake with
  | number least => rfl
  | _ => nomatch isNumber

/-- All findings are made if no option comes twice or was found before, and every text is a value. -/
theorem made_of_values (sound : Declaration.Sound table)
    (suits : ∀ giving ∈ given, giving.Suits table) (distinct : (given.map Giving.name).Nodup)
    (fresh : ∀ giving ∈ given, found.lookup giving.name = none)
    (values : ∀ giving ∈ given, giving.read?.isSome = true) :
    ∃ last, given.foldlM make found = .ok last := by
  induction given generalizing found with
  | nil => exact ⟨found, rfl⟩
  | cons giving later inductionHypothesis =>
    obtain ⟨here, behind⟩ := List.forall_mem_cons.mp suits
    obtain ⟨before, freshLater⟩ := List.forall_mem_cons.mp fresh
    obtain ⟨isValue, valuesLater⟩ := List.forall_mem_cons.mp values
    obtain ⟨unnamed, distinctLater⟩ := List.nodup_cons.mp distinct
    obtain ⟨value, read⟩ := Option.isSome_iff_exists.mp isValue
    rw [List.foldlM_cons, make_eq sound here, before, read]
    exact inductionHypothesis behind distinctLater (fresh_later unnamed freshLater value) valuesLater

/-- Where no option comes twice or was found before, and only numbers can fail to be values, one that
does is refused. -/
theorem refused_of_number (sound : Declaration.Sound table)
    (suits : ∀ giving ∈ given, giving.Suits table) (distinct : (given.map Giving.name).Nodup)
    (fresh : ∀ giving ∈ given, found.lookup giving.name = none)
    (unread : ∃ giving ∈ given, giving.read? = none)
    (numbers : ∀ giving ∈ given, giving.read? = none → giving.option.intake.isNumber = true) :
    given.foldlM make found = .error .invalidNumber := by
  induction given generalizing found with
  | nil => simp at unread
  | cons giving later inductionHypothesis =>
    obtain ⟨here, behind⟩ := List.forall_mem_cons.mp suits
    obtain ⟨before, freshLater⟩ := List.forall_mem_cons.mp fresh
    obtain ⟨isNumber, numbersLater⟩ := List.forall_mem_cons.mp numbers
    obtain ⟨unnamed, distinctLater⟩ := List.nodup_cons.mp distinct
    rw [List.foldlM_cons, make_eq sound here, before]
    cases read : giving.read? with
    | none =>
      rw [refusal_of_isNumber (isNumber read)]
      rfl
    | some value =>
      have unreadLater : ∃ other ∈ later, other.read? = none := by simpa [read] using unread
      exact inductionHypothesis behind distinctLater (fresh_later unnamed freshLater value) unreadLater
        numbersLater

end Giving

open Giving

/-- What the library finds if it accepts arguments. -/
theorem Giving.accepted {table : List Declaration} {given : List Giving} {found : Matches}
    (sound : Declaration.Sound table) (suits : ∀ giving ∈ given, giving.Suits table)
    (accepted : Reading.library table (given.map text) = .ok found) :
    ∃ last : Findings, found = last.matched table ∧
      given.foldlM make [] = .ok last := by
  rw [library_texts sound suits] at accepted
  cases made : given.foldlM make [] with
  | error refusal => simp [made, Except.map] at accepted
  | ok last =>
    rw [made] at accepted
    exact ⟨last, (Except.ok.inj accepted).symm, rfl⟩

/-- The library that reads from the left keeps its promises. -/
theorem Reading.library_isDocumented : ArgumentLibrary.IsDocumented Reading.library where
  accepts := by
    intro table given sound suits distinct values
    obtain ⟨last, made⟩ := made_of_values sound suits distinct (fun _ _ => List.lookup_nil) values
    refine ⟨last.matched table, ?_⟩
    rw [library_texts sound suits, made]
    rfl
  stores := by
    intro table given found sound suits accepted giving member
    obtain ⟨last, rfl, made⟩ := Giving.accepted sound suits accepted
    obtain ⟨_, value, read, stays⟩ := (findings_of_made sound suits made).1 giving member
    rw [Findings.matched, stays, read, Option.some_or]
  defaults := by
    intro table given found sound suits accepted option declared absent
    obtain ⟨last, rfl, made⟩ := Giving.accepted sound suits accepted
    have lacking : last.lookup option.name = none := (findings_of_made sound suits made).2 _ absent
    rw [Findings.matched, lacking, Option.none_or, sound.find?_name declared, Option.bind_some]
  refuses := by
    intro table given sound suits distinct unread numbers
    have refused := refused_of_number sound suits distinct (fun _ _ => List.lookup_nil) unread numbers
    rw [library_texts sound suits, refused]
    rfl

end ChipEight
