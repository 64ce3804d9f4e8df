import Mathlib.Data.List.Forall2
import ChipEight.Proofs.Dump.Listing

/-!
# What a row of cells tells

A row is read from its front. Two cells that could stand at the same place are told apart where
they begin the rest of a row: numbers because they all have the same width, truth values at the end
of a row because they differ in their first character. A row then gives all of its cells away,
whatever spaces the cells have.

No cell has a line end.
-/

namespace ChipEight
namespace Hex

/-- Different digits have different characters. -/
theorem digit_injective : Function.Injective digit := by
  unfold Function.Injective
  decide

/-- Numbers that fit are given away by their digits. -/
theorem digits_injective {count number other : Nat} (fits : number < Nat.pow 16 count)
    (fitsToo : other < Nat.pow 16 count) (same : digits count number = digits count other) :
    number = other := by
  induction count generalizing number other with
  | zero =>
    obtain rfl : number = 0 := Nat.lt_one_iff.mp fits
    exact (Nat.lt_one_iff.mp fitsToo).symm
  | succ count inductionHypothesis =>
    obtain ⟨high, low⟩ := List.append_inj' same rfl
    have quotient : number / 16 = other / 16 := by
      refine inductionHypothesis ?_ ?_ high
      · exact Nat.div_lt_of_lt_mul (by rwa [Nat.mul_comm])
      · exact Nat.div_lt_of_lt_mul (by rwa [Nat.mul_comm])
    have remainder : number % 16 = other % 16 :=
      congrArg Fin.val (digit_injective (List.singleton_inj.mp low))
    omega

/-- All characters behind the mark are digits. -/
theorem mem_digits {count number : Nat} {character : Char} (member : character ∈ digits count number) :
    ∃ value, character = digit value := by
  induction count generalizing number with
  | zero => nomatch member
  | succ count inductionHypothesis =>
    rcases List.mem_append.mp member with high | low
    · exact inductionHypothesis high
    · exact ⟨_, List.mem_singleton.mp low⟩

end Hex

namespace Dump

/-! ## Cells -/

/-- Two cells are told apart at the front of a row: where both begin the same text they are the
same, and so is what stands behind them. -/
def ToldApart (cell other : String) : Prop :=
  ∀ rest restOther : String, cell ++ rest = other ++ restOther → cell = other ∧ rest = restOther

/-- Cells of the same width are told apart. -/
theorem toldApart_of_length {cell other : String} (width : cell.length = other.length) :
    ToldApart cell other := by
  intro rest restOther same
  have characters := congrArg String.toList same
  rw [String.toList_append, String.toList_append] at characters
  obtain ⟨front, back⟩ := List.append_inj characters (by
    rwa [String.length_toList, String.length_toList])
  exact ⟨String.toList_inj.mp front, String.toList_inj.mp back⟩

/-- A row of cells gives all of them away. -/
theorem intercalate_injective {separator : String} {cells others : List String}
    (apart : List.Forall₂ ToldApart cells others)
    (same : separator.intercalate cells = separator.intercalate others) : cells = others := by
  induction apart with
  | nil => rfl
  | @cons cell other cells others told rest inductionHypothesis =>
    cases rest with
    | nil =>
      rw [String.intercalate_singleton, String.intercalate_singleton] at same
      obtain ⟨rfl, -⟩ := told "" "" (congrArg (· ++ "") same)
      rfl
    | cons toldNext rest =>
      rw [String.intercalate_cons_cons, String.intercalate_cons_cons, String.append_assoc,
        String.append_assoc] at same
      obtain ⟨rfl, behind⟩ := told _ _ same
      rw [inductionHypothesis ((String.append_right_inj _).mp behind)]

/-! ## Numbers -/

/-- Numbers have the width of four digits and their mark. -/
@[simp]
theorem length_number (value : Nat) : (number value).length = 6 := by
  have mark : "0x".length = 2 := by decide
  simp [number, Hex.text, Hex.length_digits, mark]

/-- Numbers of four digits are given away by their text. -/
theorem number_injective {value other : Nat} (fits : value < 65536) (fitsToo : other < 65536)
    (same : number value = number other) : value = other := by
  unfold number Hex.text at same
  have digits := String.ofList_injective ((String.append_right_inj _).mp same)
  have most : 65536 = Nat.pow 16 4 := rfl
  exact Hex.digits_injective (most ▸ fits) (most ▸ fitsToo) digits

/-- The width of a span does not depend on what it spans. -/
@[simp]
theorem length_span (first last : Nat) : (span first last).length = 17 := by
  have dash : " - ".length = 3 := by decide
  have colon : " :".length = 2 := by decide
  simp [span, dash, colon]

/-- Numbers are told apart. -/
theorem number_toldApart (value other : Nat) : ToldApart (number value) (number other) :=
  toldApart_of_length (by rw [length_number, length_number])

/-- As many numbers are told apart one by one. -/
theorem numbers_toldApart {values others : List Nat} (count : values.length = others.length) :
    List.Forall₂ ToldApart (values.map number) (others.map number) := by
  induction values generalizing others with
  | nil =>
    obtain rfl := List.length_eq_zero_iff.mp count.symm
    exact .nil
  | cons value values inductionHypothesis =>
    obtain _ | ⟨other, others⟩ := others
    · nomatch count
    · exact .cons (number_toldApart value other) (inductionHypothesis (Nat.succ.inj count))

/-- Words are given away by their texts. -/
theorem wordText_injective : Function.Injective fun word : Word => number word.toNat :=
  fun word other same => UInt16.toNat_inj.mp (number_injective word.toNat_lt other.toNat_lt same)

/-- Bytes are given away by their texts. -/
theorem byteText_injective : Function.Injective fun byte : Byte => number byte.toNat := by
  intro byte other same
  have bound := byte.toNat_lt
  have boundOther := other.toNat_lt
  exact UInt8.toNat_inj.mp (number_injective (by omega) (by omega) same)

/-- Addresses are given away by their texts. -/
theorem addressText_injective : Function.Injective fun address : Address => number address.val :=
  fun address other same => Fin.ext (number_injective (by omega) (by omega) same)

/-- A span gives its ends away. -/
theorem span_injective {first last firstOther lastOther : Nat} (fits : first < 65536)
    (fitsOther : firstOther < 65536) (fitsLast : last < 65536) (fitsLastOther : lastOther < 65536)
    (same : span first last = span firstOther lastOther) : first = firstOther ∧ last = lastOther := by
  simp only [span, String.append_assoc] at same
  obtain ⟨low, behind⟩ := number_toldApart _ _ _ _ same
  obtain ⟨high, -⟩ := number_toldApart _ _ _ _ ((String.append_right_inj _).mp behind)
  exact ⟨number_injective fits fitsOther low, number_injective fitsLast fitsLastOther high⟩

/-! ## Rows of the memory -/

/-- The words of a row. -/
def wordsText (content : List Word) : String :=
  " ".intercalate (content.map fun word => number word.toNat)

/-- As many words are given away by their text. -/
theorem wordsText_injective {content other : List Word} (count : content.length = other.length)
    (same : wordsText content = wordsText other) : content = other := by
  have apart : List.Forall₂ ToldApart ((content.map UInt16.toNat).map number)
      ((other.map UInt16.toNat).map number) := numbers_toldApart (by simpa using count)
  rw [List.map_map, List.map_map] at apart
  exact List.map_injective_iff.mpr wordText_injective (intercalate_injective apart same)

/-- Words are never written like the filler: behind the first number the filler has a gap, and a
word begins with its mark. -/
theorem wordsText_ne_filler (word next : Word) (rest : List Word) :
    wordsText (word :: next :: rest) ≠ filler := by
  intro same
  simp only [wordsText, List.map_cons, String.intercalate_cons_cons, filler, String.append_assoc] at same
  obtain ⟨-, behind⟩ := number_toldApart _ _ _ _ same
  -- A space follows in both; the next character is the mark of a word or a space of the gap.
  have second := congrArg (fun text => text.toList[1]?) behind
  cases rest <;> simp [number, Hex.text] at second

/-- What stands behind the ends of a row. -/
def MemoryRow.content : MemoryRow → String
  | .words _ content => wordsText content
  | .zeros _ _ => filler

/-- The text of a row begins with its ends. -/
theorem MemoryRow.text_eq (row : MemoryRow) :
    row.text = span row.first row.last ++ (" " ++ row.content) := by
  rw [← String.append_assoc]
  cases row <;> rfl

/-- Rows that tell what a memory holds are given away by their texts. -/
theorem MemoryRow.text_injective {row other : MemoryRow} {memory memoryOther : Memory}
    (shows : row.Shows memory) (showsOther : other.Shows memoryOther)
    (same : row.text = other.text) : row = other := by
  have bounds : row.first < 4096 ∧ row.last < 4096 := by
    cases shows <;> simp only [first, last] <;> omega
  have boundsOther : other.first < 4096 ∧ other.last < 4096 := by
    cases showsOther <;> simp only [first, last] <;> omega
  rw [text_eq, text_eq] at same
  have width : (span row.first row.last).length = (span other.first other.last).length := by
    rw [length_span, length_span]
  obtain ⟨ends, behind⟩ := toldApart_of_length width _ _ same
  have contents : row.content = other.content := (String.append_right_inj _).mp behind
  obtain ⟨begins, stops⟩ := span_injective (by omega) (by omega) (by omega) (by omega) ends
  cases shows with
  | words line inside =>
    cases showsOther with
    | words lineOther insideOther =>
      have words := wordsText_injective (by simp [lineWords]) contents
      rw [words, show line * 16 = lineOther * 16 from begins]
    | zeros => exact absurd contents (wordsText_ne_filler _ _ _)
  | zeros firstRow lastRow ordered inside empty =>
    cases showsOther with
    | words lineOther insideOther => exact absurd contents.symm (wordsText_ne_filler _ _ _)
    | zeros firstOther lastOther _ _ _ =>
      simp only [first, last] at begins stops
      rw [begins, stops]

/-- Rows that tell what memories hold are given away by their texts. -/
theorem rowTexts_injective {rows others : List MemoryRow} {memory memoryOther : Memory}
    (shown : ∀ row ∈ rows, row.Shows memory) (shownOther : ∀ row ∈ others, row.Shows memoryOther)
    (same : rows.map MemoryRow.text = others.map MemoryRow.text) : rows = others := by
  induction rows generalizing others with
  | nil => exact (List.map_eq_nil_iff.mp same.symm).symm
  | cons row rows inductionHypothesis =>
    obtain _ | ⟨other, others⟩ := others
    · nomatch same
    obtain ⟨first, rest⟩ := List.forall_mem_cons.mp shown
    obtain ⟨firstOther, restOther⟩ := List.forall_mem_cons.mp shownOther
    obtain ⟨sameFirst, sameRest⟩ := List.cons.inj same
    rw [MemoryRow.text_injective first firstOther sameFirst,
      inductionHypothesis rest restOther sameRest]

/-! ## Grids -/

/-- Two rows of eight give all of their sixteen cells away. -/
theorem cellRows_injective {cells others : List String} (count : cells.length = 16)
    (apart : List.Forall₂ ToldApart cells others) (same : cellRows cells = cellRows others) :
    cells = others := by
  have countOther : others.length = 16 := apart.length_eq.symm.trans count
  have row (first : Nat) (sameRow : span first (first + 7) ++ " " ++
        " ".intercalate ((cells.drop first).take 8) =
      span first (first + 7) ++ " " ++ " ".intercalate ((others.drop first).take 8)) :
      (cells.drop first).take 8 = (others.drop first).take 8 :=
    intercalate_injective (List.forall₂_take 8 (List.forall₂_drop first apart))
      ((String.append_right_inj _).mp sameRow)
  obtain ⟨upper, rest⟩ := List.cons.inj same
  have lower := (List.cons.inj rest).1
  have front : cells.take 8 = others.take 8 := row 0 upper
  have back : cells.drop 8 = others.drop 8 := by
    have eight := row 8 lower
    rwa [List.take_of_length_le (by simp [count]), List.take_of_length_le (by simp [countOther])]
      at eight
  rw [← List.take_append_drop 8 cells, front, back, List.take_append_drop]

/-- A grid of numbers gives its entries away. -/
theorem numberRows_injective {α : Type} {value : α → Nat} {entries others : List α}
    (injective : Function.Injective fun entry => number (value entry)) (count : entries.length = 16)
    (countOther : others.length = 16)
    (same : cellRows (entries.map fun entry => number (value entry)) =
      cellRows (others.map fun entry => number (value entry))) : entries = others := by
  have apart : List.Forall₂ ToldApart ((entries.map value).map number)
      ((others.map value).map number) := numbers_toldApart (by simp [count, countOther])
  rw [List.map_map, List.map_map] at apart
  exact List.map_injective_iff.mpr injective (cellRows_injective (by simp [count]) apart same)

/-- The two cells of a key are told apart by their first characters. -/
theorem keyCell_apart (key : Key) (rest restOther : String) :
    keyCell key true ++ rest ≠ keyCell key false ++ restOther := by
  intro same
  have first := congrArg (fun text => text.toList.head?) same
  by_cases last : key.val % 8 = 7 <;> simp [keyCell, last] at first

/-- The cells of a key are told apart. -/
theorem keyCell_toldApart (key : Key) (isDown isDownOther : Bool) :
    ToldApart (keyCell key isDown) (keyCell key isDownOther) := by
  intro rest restOther same
  cases isDown <;> cases isDownOther
  · exact toldApart_of_length rfl _ _ same
  · exact absurd same.symm (keyCell_apart key restOther rest)
  · exact absurd same (keyCell_apart key rest restOther)
  · exact toldApart_of_length rfl _ _ same

/-- A key cell gives away whether the key is down. -/
theorem keyCell_injective {key : Key} {isDown isDownOther : Bool}
    (same : keyCell key isDown = keyCell key isDownOther) : isDown = isDownOther := by
  cases isDown <;> cases isDownOther
  · rfl
  · exact absurd (congrArg (· ++ "") same.symm) (keyCell_apart key "" "")
  · exact absurd (congrArg (· ++ "") same) (keyCell_apart key "" "")
  · rfl

/-- The grid of the keys gives all keys away. -/
theorem keyRows_injective {keypad other : Keypad}
    (same : cellRows ((List.finRange 16).map fun key => keyCell key (keypad.isDown key)) =
      cellRows ((List.finRange 16).map fun key => keyCell key (other.isDown key))) :
    keypad = other := by
  have apart : List.Forall₂ ToldApart
      ((List.finRange 16).map fun key => keyCell key (keypad.isDown key))
      ((List.finRange 16).map fun key => keyCell key (other.isDown key)) := by
    simp only [List.forall₂_map_left_iff, List.forall₂_map_right_iff, List.forall₂_same]
    exact fun key _ => keyCell_toldApart key _ _
  have cells := cellRows_injective (by simp) apart same
  have agree (key : Key) : keypad.isDown key = other.isDown key :=
    keyCell_injective (List.map_inj_left.mp cells key (List.mem_finRange key))
  obtain ⟨down⟩ := keypad
  obtain ⟨downOther⟩ := other
  exact congrArg Keypad.mk (Vector.ext fun place inside => agree ⟨place, inside⟩)

/-! ## Line ends -/

/-- A text without a line end. -/
def IsPlain (text : String) : Prop := '\n' ∉ text.toList

/-- A text is plain iff its parts are. -/
@[simp]
theorem isPlain_append (text other : String) : IsPlain (text ++ other) ↔ IsPlain text ∧ IsPlain other := by
  simp [IsPlain, not_or]

/-- Joined texts are plain if all of them are, and what stands between them. -/
theorem isPlain_intercalate {separator : String} {cells : List String} (between : IsPlain separator)
    (plain : ∀ cell ∈ cells, IsPlain cell) : IsPlain (separator.intercalate cells) := by
  induction cells with
  | nil => exact nofun
  | cons cell cells inductionHypothesis =>
    obtain ⟨first, rest⟩ := List.forall_mem_cons.mp plain
    cases cells with
    | nil => rwa [String.intercalate_singleton]
    | cons next cells =>
      rw [String.intercalate_cons_cons, isPlain_append, isPlain_append]
      exact ⟨⟨first, between⟩, inductionHypothesis rest⟩

/-- Numbers are plain. -/
@[simp]
theorem isPlain_number (value : Nat) : IsPlain (number value) := by
  have digit (value : Fin 16) : '\n' ≠ Hex.digit value := by
    revert value
    decide
  intro member
  rw [number, Hex.text, String.toList_append, List.mem_append] at member
  rcases member with mark | digits
  · simp at mark
  · rw [String.toList_ofList] at digits
    obtain ⟨value, same⟩ := Hex.mem_digits digits
    exact digit value same

/-- A span is plain. -/
theorem isPlain_span (first last : Nat) : IsPlain (span first last) := by
  have dash : IsPlain " - " := by simp [IsPlain]
  have colon : IsPlain " :" := by simp [IsPlain]
  simp [span, dash, colon]

/-- Spaces are plain. -/
theorem isPlain_space : IsPlain " " := by simp [IsPlain]

/-- Rows of the memory are plain. -/
theorem MemoryRow.isPlain_text (row : MemoryRow) : IsPlain row.text := by
  have words (content : List Word) : IsPlain (wordsText content) := by
    refine isPlain_intercalate isPlain_space ?_
    intro cell member
    obtain ⟨word, -, rfl⟩ := List.mem_map.mp member
    exact isPlain_number _
  have zeros : IsPlain filler := by
    have gap : IsPlain (String.ofList (List.replicate 20 ' ')) := by simp [IsPlain]
    have dots : IsPlain "..." := by simp [IsPlain]
    simp only [filler, isPlain_append, isPlain_number, gap, dots, and_self]
  rw [text_eq, isPlain_append, isPlain_append]
  refine ⟨isPlain_span _ _, isPlain_space, ?_⟩
  cases row with
  | words first content => exact words content
  | zeros first last => exact zeros

/-- A grid of plain cells has plain rows. -/
theorem isPlain_cellRows {cells : List String} (plain : ∀ cell ∈ cells, IsPlain cell) :
    ∀ row ∈ cellRows cells, IsPlain row := by
  intro row member
  obtain ⟨first, -, rfl⟩ := List.mem_map.mp member
  rw [isPlain_append, isPlain_append]
  refine ⟨⟨isPlain_span _ _, isPlain_space⟩, isPlain_intercalate isPlain_space ?_⟩
  intro cell inRow
  exact plain cell (List.mem_of_mem_drop (List.mem_of_mem_take inRow))

/-- Key cells are plain. -/
theorem isPlain_keyCell (key : Key) (isDown : Bool) : IsPlain (keyCell key isDown) := by
  by_cases last : key.val % 8 = 7 <;> cases isDown <;> simp [keyCell, last, IsPlain]

end Dump
end ChipEight
