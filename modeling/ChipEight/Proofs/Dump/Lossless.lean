import ChipEight.Proofs.Dump.Cells

/-!
# Dumps lose nothing

The name of a program is written into a dump as it is, so that a name may contain lines that look
like lines of a dump. A dump is therefore read from its end. No line behind the name has a line end
in it, and no row of a section looks like a title, because rows stand one step further in: the last
line that is the title of the last section begins this section, then the last such line in front of
it begins the section before, and so on. What is left in front of all of them is the name.
-/

namespace ChipEight
namespace Dump

/-! ## Lines -/

/-- The lines of a text. -/
def lines (text : String) : List String := (text.toList.splitOn '\n').map String.ofList

/-- A plain text is a single line. -/
theorem lines_of_isPlain {text : String} (plain : IsPlain text) : lines text = [text] := by
  rw [lines, List.splitOn_eq_singleton plain]
  simp

/-- Plain texts are their lines. -/
theorem flatMap_lines {texts : List String} (plain : ∀ text ∈ texts, IsPlain text) :
    texts.flatMap lines = texts := by
  induction texts with
  | nil => rfl
  | cons text texts inductionHypothesis =>
    obtain ⟨first, rest⟩ := List.forall_mem_cons.mp plain
    rw [List.flatMap_cons, lines_of_isPlain first, inductionHypothesis rest]
    rfl

/-- Texts joined by line ends have the lines of the texts. -/
theorem lines_intercalate (first : String) (texts : List String) :
    lines ("\n".intercalate (first :: texts)) = (first :: texts).flatMap lines := by
  induction texts generalizing first with
  | nil => simp
  | cons next texts inductionHypothesis =>
    have cut (front back : List Char) :
        (front ++ '\n' :: back).splitOn '\n' = front.splitOn '\n' ++ back.splitOn '\n' :=
      List.splitOn_append_cons_self front back
    rw [List.flatMap_cons, ← inductionHypothesis, String.intercalate_cons_cons]
    simp [lines, cut]

/-- A text is given away by its lines. -/
theorem lines_injective : Function.Injective lines := by
  intro text other same
  have joined (text : String) : ['\n'].intercalate (text.toList.splitOn '\n') = text.toList :=
    List.intercalate_splitOn '\n'
  have split : text.toList.splitOn '\n' = other.toList.splitOn '\n' :=
    List.map_injective_iff.mpr (fun _ _ => String.ofList_injective) same
  exact String.toList_inj.mp (by rw [← joined text, split, joined])

/-! ## Sections -/

/-- The last line of some kind divides a list of lines. -/
theorem divide_at_last {title : String} {front frontOther rows rowsOther : List String}
    (last : title ∉ rows) (lastOther : title ∉ rowsOther)
    (same : front ++ title :: rows = frontOther ++ title :: rowsOther) :
    front = frontOther ∧ rows = rowsOther := by
  rcases List.append_eq_append_iff.mp same with ⟨between, rfl, found⟩ | ⟨between, rfl, found⟩
  · cases between with
    | nil => exact ⟨by simp, (List.cons.inj found).2⟩
    | cons line between => exact absurd ((List.cons.inj found).2 ▸ by simp) last
  · cases between with
    | nil => exact ⟨by simp, (List.cons.inj found).2.symm⟩
    | cons line between => exact absurd ((List.cons.inj found).2 ▸ by simp) lastOther

/-- A title that does not begin with a step is not written like a row. -/
theorem title_ne_row {title row : String} (unstepped : title.toList.head? ≠ some '\t') :
    "\t" ++ title ++ " :" ≠ "\t\t" ++ row := by
  intro same
  have second := congrArg (fun text => text.toList[1]?) same
  cases characters : title.toList with
  | nil => simp [characters] at second
  | cons character rest =>
    obtain rfl : character = '\t' := by simpa [characters] using second
    exact unstepped (by rw [characters]; rfl)

/-- Sections with known titles are read from behind, whatever stands in front of them. -/
theorem sections_from_behind {front frontOther : List String}
    {sections others : List (String × List String)}
    (titles : sections.map Prod.fst = others.map Prod.fst)
    (unstepped : ∀ title ∈ sections.map Prod.fst, title.toList.head? ≠ some '\t')
    (same : front ++ sections.flatMap sectionLines = frontOther ++ others.flatMap sectionLines) :
    front = frontOther ∧ sections = others := by
  -- The sections behind the first are taken off first, so that its title is the last one left.
  induction sections generalizing others front frontOther with
  | nil =>
    obtain rfl : others = [] := List.map_eq_nil_iff.mp titles.symm
    simpa using same
  | cons first sections inductionHypothesis =>
    obtain _ | ⟨other, others⟩ := others
    · nomatch titles
    obtain ⟨title, rows⟩ := first
    obtain ⟨titleOther, rowsOther⟩ := other
    obtain ⟨sameTitle, titlesBehind⟩ := List.cons.inj titles
    obtain rfl : title = titleOther := sameTitle
    obtain ⟨unsteppedFirst, unsteppedBehind⟩ := List.forall_mem_cons.mp unstepped
    rw [List.flatMap_cons, List.flatMap_cons, ← List.append_assoc, ← List.append_assoc] at same
    obtain ⟨inFront, rfl⟩ := inductionHypothesis titlesBehind unsteppedBehind same
    have apart (rows : List String) : "\t" ++ title ++ " :" ∉ rows.map ("\t\t" ++ ·) := by
      intro member
      obtain ⟨row, -, looksAlike⟩ := List.mem_map.mp member
      exact title_ne_row unsteppedFirst looksAlike.symm
    obtain ⟨sameFront, sameRows⟩ := divide_at_last (apart rows) (apart rowsOther) inFront
    have indented : Function.Injective ("\t\t" ++ · : String → String) :=
      fun _ _ => (String.append_right_inj _).mp
    rw [List.map_injective_iff.mpr indented sameRows]
    exact ⟨sameFront, rfl⟩

variable {machine other : Machine}

/-- The titles and rows of the sections behind the name are plain. -/
theorem isPlain_parts (machine : Machine) (listing : List MemoryRow) :
    ∀ part ∈ (sections machine listing).tail, IsPlain part.1 ∧ ∀ row ∈ part.2, IsPlain row := by
  have none : ∀ row ∈ ([] : List String), IsPlain row := nofun
  have single (value : Nat) : IsPlain (number value) ∧ ∀ row ∈ ([] : List String), IsPlain row :=
    ⟨isPlain_number value, none⟩
  have memory : ∀ row ∈ listing.map MemoryRow.text, IsPlain row := by
    simp [MemoryRow.isPlain_text]
  have keys : ∀ row ∈ cellRows ((List.finRange 16).map fun key =>
      keyCell key (machine.keypad.isDown key)), IsPlain row :=
    isPlain_cellRows (by simp [isPlain_keyCell])
  have stack : ∀ row ∈ cellRows (stackCells machine.stack), IsPlain row :=
    isPlain_cellRows (by simp [stackCells, or_imp, forall_and])
  have registers : ∀ row ∈ cellRows (machine.registers.toList.map fun byte => number byte.toNat),
      IsPlain row := isPlain_cellRows (by simp)
  have rows : ∀ part ∈ (sections machine listing).tail, ∀ row ∈ part.2, IsPlain row := by
    simp only [sections, List.tail_cons, List.forall_mem_cons]
    exact ⟨single _, single _, single _, single _, single _, memory, keys, stack, registers, nofun⟩
  have titles : ∀ part ∈ (sections machine listing).tail, IsPlain part.1 := by
    simp [sections, IsPlain]
  exact fun part member => ⟨titles part member, rows part member⟩

/-- All lines of the sections behind the name are plain. -/
theorem isPlain_sections (machine : Machine) (listing : List MemoryRow) :
    ∀ line ∈ (sections machine listing).tail.flatMap sectionLines, IsPlain line := by
  intro line member
  obtain ⟨⟨title, rows⟩, isPart, inPart⟩ := List.mem_flatMap.mp member
  obtain ⟨plainTitle, plainRows⟩ := isPlain_parts machine listing _ isPart
  have step : IsPlain "\t" := by simp [IsPlain]
  have colon : IsPlain " :" := by simp [IsPlain]
  rcases List.mem_cons.mp inPart with rfl | inRows
  · simp only [isPlain_append, step, colon, plainTitle, and_self]
  · obtain ⟨row, isRow, rfl⟩ := List.mem_map.mp inRows
    have steps : IsPlain "\t\t" := by simp [IsPlain]
    exact (isPlain_append _ _).mpr ⟨steps, plainRows row isRow⟩

/-- The lines of a dump. Only the name may stand on more than one of them. -/
theorem lines_text (machine : Machine) (listing : List MemoryRow) :
    lines (text machine listing) =
      ["Chipset \x7b", "\tProgram Name :"] ++ lines ("\t\t" ++ machine.name) ++
        (sections machine listing).tail.flatMap sectionLines ++ ["\x7d"] := by
  have parts : text machine listing = "\n".intercalate ("Chipset \x7b" ::
      ("\tProgram Name :" :: ("\t\t" ++ machine.name) ::
        ((sections machine listing).tail.flatMap sectionLines ++ ["\x7d"]))) := rfl
  have opening : IsPlain "Chipset \x7b" := by simp [IsPlain]
  have title : IsPlain "\tProgram Name :" := by simp [IsPlain]
  have closing : IsPlain "\x7d" := by simp [IsPlain]
  rw [parts, lines_intercalate, List.flatMap_cons, List.flatMap_cons, List.flatMap_cons,
    List.flatMap_append, List.flatMap_singleton, lines_of_isPlain opening, lines_of_isPlain title,
    lines_of_isPlain closing, flatMap_lines (isPlain_sections machine listing)]
  simp

end Dump

/-- A countdown of a byte is given away by the byte. -/
theorem Countdown.toByte_injective : Function.Injective Countdown.toByte := by
  rintro ⟨left⟩ ⟨leftOther⟩ same
  exact congrArg Countdown.mk (UInt8.ofBitVec.inj same)

/-- The return addresses, oldest first, and a zero for each free entry. -/
def CallStack.padded (stack : CallStack) : List Address :=
  stack.oldestFirst ++ List.replicate (16 - stack.depth) 0

-- A call from address zero looks like a free entry.
example : CallStack.padded ⟨[0], by decide⟩ = CallStack.padded .empty := by decide

namespace Machine

/-- Two machines agree on all that a dump tells. -/
structure ShownAlike (machine other : Machine) : Prop where
  name : machine.name = other.name
  opcode : machine.opcode = other.opcode
  pc : machine.pc = other.pc
  index : machine.index = other.index
  delay : machine.timers.delay = other.timers.delay
  sound : machine.timers.sound = other.timers.sound
  memory : machine.memory = other.memory
  keypad : machine.keypad = other.keypad
  stack : machine.stack.padded = other.stack.padded
  registers : machine.registers = other.registers

variable {machine other : Machine}

/-- The cells of a stack are the numbers of its padded addresses. -/
theorem stackCells_eq (stack : CallStack) :
    Dump.stackCells stack = stack.padded.map fun address => Dump.number address.val := by
  simp [Dump.stackCells, CallStack.padded, CallStack.oldestFirst, CallStack.depth]

/-- A padded stack has sixteen entries. -/
theorem length_padded (stack : CallStack) : stack.padded.length = 16 := by
  have bound := stack.length_le
  simp only [CallStack.padded, CallStack.oldestFirst, CallStack.depth, List.length_append,
    List.length_reverse, List.length_replicate]
  omega

/-- A dump tells all that machines may agree on in it. -/
theorem shownAlike_of_dump (same : machine.dump = other.dump) : machine.ShownAlike other := by
  have lines := congrArg Dump.lines same
  rw [dump, dump, Dump.lines_text, Dump.lines_text] at lines
  have inFront := List.append_cancel_right lines
  have titles : (Dump.sections machine (Dump.memoryRows machine.memory)).tail.map Prod.fst =
      (Dump.sections other (Dump.memoryRows other.memory)).tail.map Prod.fst := by
    simp only [Dump.sections, List.tail_cons, List.map_cons]
  obtain ⟨nameLines, parts⟩ := Dump.sections_from_behind titles (by simp [Dump.sections]) inFront
  have name := Dump.lines_injective (List.append_cancel_left nameLines)
  simp only [Dump.sections, List.tail_cons, List.cons.injEq, Prod.mk.injEq, true_and, and_true]
    at parts
  obtain ⟨opcode, pc, index, delay, sound, memory, keys, stack, registers⟩ := parts
  have delayByte := Dump.byteText_injective delay
  have soundByte := Dump.byteText_injective sound
  rw [stackCells_eq, stackCells_eq] at stack
  exact {
    name := (String.append_right_inj _).mp name
    opcode := Dump.wordText_injective opcode
    pc := Dump.addressText_injective pc
    index := Dump.addressText_injective index
    delay := Countdown.toByte_injective delayByte
    sound := Countdown.toByte_injective soundByte
    memory := Dump.memoryRows_injective (Dump.rowTexts_injective
      (Dump.memoryRows_listing machine.memory).shows (Dump.memoryRows_listing other.memory).shows memory)
    keypad := Dump.keyRows_injective keys
    stack := Dump.numberRows_injective Dump.addressText_injective (length_padded _) (length_padded _)
      stack
    registers := Vector.toList_inj.mp (Dump.numberRows_injective Dump.byteText_injective
      Vector.length_toList Vector.length_toList registers) }

/-- What a dump tells.

A dump can be made of every machine: while the memory is read no word is missing. Two machines have
the same dump iff they have the same name, opcode, counter, index, timers, memory, keys and
registers, and the same stack where free entries count as zero. -/
theorem dump_is_total_and_lossless :
    (∀ machine : Machine, machine.dump? = .ok machine.dump) ∧
      ∀ machine other : Machine, machine.dump = other.dump ↔ machine.ShownAlike other := by
  refine ⟨dump?_ok, fun machine other => ⟨shownAlike_of_dump, ?_⟩⟩
  intro alike
  simp only [dump, Dump.text, Dump.sections, stackCells_eq, alike.name, alike.opcode, alike.pc,
    alike.index, alike.delay, alike.sound, alike.memory, alike.keypad, alike.stack, alike.registers]

end Machine
end ChipEight
