import ChipEight.Proofs.Instruction.Decoding

/-!
# Every instruction has its word

Writing an instruction and reading its word leads back to the instruction. Two instructions are an
exception: the routines of the host at the addresses `0E0` and `0EE` have no word of their own,
because their words mean something else. The words that no instruction is written as can be told
from their digits, and they are the words that decoding refuses.
-/

namespace ChipEight

/-- The words that stand for no instruction: the last digit of `5XYN` and `9XYN` is not zero, or the
last digit of `8XYN` or the last byte of `EXNN` or `FXNN` selects nothing. -/
def Word.IsUnused (word : Word) : Prop :=
  (word.family = 0x5 ∨ word.family = 0x9) ∧ word.n ≠ 0x0 ∨
  word.family = 0x8 ∧ (0x8 ≤ word.n ∧ word.n ≤ 0xD ∨ word.n = 0xF) ∨
  word.family = 0xE ∧ word.byte ≠ 0x9E ∧ word.byte ≠ 0xA1 ∨
  word.family = 0xF ∧
    ∀ code ∈ ([0x07, 0x0A, 0x15, 0x18, 0x1E, 0x29, 0x33, 0x55, 0x65] : List Byte), word.byte ≠ code

/-- The digits that select no operation on two registers. -/
theorem Arithmetic.ofCode?_eq_none {digit : Fin 16} :
    ofCode? digit = none ↔ 0x8 ≤ digit ∧ digit ≤ 0xD ∨ digit = 0xF := by
  revert digit
  decide

namespace Instruction

/-! ## The fields of a written word -/

variable {family : Nat}

/-- A word with an address is written with its family and its address. -/
theorem digits_addressWord (small : family < 16) (nnn : Address) :
    (addressWord family nnn).family.val = family ∧ (addressWord family nnn).address = nnn := by
  have below : nnn.val < 4096 := nnn.isLt
  have whole : (addressWord family nnn).toNat = (family * 4096 + nnn.val) % 65536 :=
    UInt16.toNat_ofNat'
  refine ⟨?_, Fin.ext ?_⟩
  · rw [Word.family, Fin.val_ofNat]
    omega
  · rw [Word.address, Fin.val_ofNat]
    omega

/-- The family of a word with an address. -/
theorem family_addressWord (small : family < 16) (nnn : Address) :
    (addressWord family nnn).family = Fin.ofNat 16 family :=
  Fin.ext ((digits_addressWord small nnn).1.trans (Nat.mod_eq_of_lt small).symm)

/-- The family of a word with a constant. -/
theorem family_byteWord (small : family < 16) (x : Register) (nn : Byte) :
    (byteWord family x nn).family = Fin.ofNat 16 family :=
  Fin.ext ((digits_byteWord small x nn).1.trans (Nat.mod_eq_of_lt small).symm)

/-- The family of a word with two registers. -/
theorem family_pairWord (small : family < 16) (x y : Register) (n : Fin 16) :
    (pairWord family x y n).family = Fin.ofNat 16 family :=
  Fin.ext ((digits_pairWord small x y n).1.trans (Nat.mod_eq_of_lt small).symm)

/-! ## Reading what was written -/

/-- Whether an instruction is the one that its word stands for. -/
def HasOwnWord : Instruction → Prop
  | system nnn => nnn ≠ 0x0E0 ∧ nnn ≠ 0x0EE
  | _ => True

/-- A routine at an address that no other instruction takes is read from its word. -/
theorem ofWord?_systemWord {nnn : Address} (free : nnn ≠ 0x0E0 ∧ nnn ≠ 0x0EE) :
    ofWord? (addressWord 0x0 nnn) = some (system nnn) := by
  have same : (addressWord 0x0 nnn).family = 0x0 := family_addressWord (by decide) nnn
  have address : (addressWord 0x0 nnn).address = nnn := (digits_addressWord (by decide) nnn).2
  have clears : addressWord 0x0 nnn ≠ 0x00E0 := fun taken => free.1 (address ▸ taken ▸ rfl)
  have returns : addressWord 0x0 nnn ≠ 0x00EE := fun taken => free.2 (address ▸ taken ▸ rfl)
  simp [ofWord?, same, clears, returns, address]

/-- An instruction that has its own word is read from it. -/
theorem ofWord?_encode {instruction : Instruction} (own : instruction.HasOwnWord) :
    ofWord? instruction.encode = some instruction := by
  cases instruction with
  | system nnn => exact ofWord?_systemWord own
  | clearScreen | ret => decide
  | jump nnn | call nnn | loadIndex nnn | jumpOffset nnn =>
    simp (disch := decide) only [encode, ofWord?, family_addressWord, digits_addressWord,
      Fin.reduceOfNat]
  | skipEqual x nn | skipNotEqual x nn | load x nn | add x nn | random x nn =>
    simp (disch := decide) [encode, ofWord?, family_byteWord, digits_byteWord, byte_byteWord]
  | skipSame x y | skipDifferent x y | draw x y n =>
    simp (disch := decide) [encode, ofWord?, family_pairWord, digits_pairWord]
  | arithmetic operation x y =>
    rw [encode, ofWord?_arithmeticWord, Arithmetic.ofCode?_code]
    rfl
  | skipDown x | skipUp x =>
    simp (disch := decide) [encode, ofWord?, family_byteWord, digits_byteWord, byte_byteWord,
      ofKeyWord?]
  | getDelay x | awaitKey x | setDelay x | setSound x | addIndex x | glyph x | storeDecimal x
  | storeRegisters x | loadRegisters x => exact ofWord?_deviceWord x _

/-- The instruction of a word has this word as its own. -/
theorem hasOwnWord_of_ofWord? {word : Word} {instruction : Instruction}
    (known : ofWord? word = some instruction) : instruction.HasOwnWord := by
  cases instruction with
  | system nnn =>
    have written : addressWord 0x0 nnn = word := encode_of_ofWord? known
    constructor
    · rintro rfl
      rw [← written] at known
      exact absurd known (by decide)
    · rintro rfl
      rw [← written] at known
      exact absurd known (by decide)
  | _ => exact trivial

/-- Every instruction is written as a word that stands for some instruction. -/
theorem exists_ofWord?_encode (instruction : Instruction) :
    ∃ other, ofWord? instruction.encode = some other := by
  by_cases own : instruction.HasOwnWord
  · exact ⟨instruction, ofWord?_encode own⟩
  · cases instruction with
    | system nnn =>
      rcases Decidable.not_and_iff_or_not.mp own with clears | returns
      · obtain rfl : nnn = 0x0E0 := Decidable.not_not.mp clears
        exact ⟨clearScreen, by decide⟩
      · obtain rfl : nnn = 0x0EE := Decidable.not_not.mp returns
        exact ⟨ret, by decide⟩
    | _ => exact absurd trivial own

/-! ## Words without an instruction -/

/-- The bytes that select no instruction about keys. -/
theorem ofKeyWord?_eq_none {x : Register} {nn : Byte} :
    ofKeyWord? x nn = none ↔ nn ≠ 0x9E ∧ nn ≠ 0xA1 := by
  unfold ofKeyWord?
  split <;> simp_all

/-- The bytes that select no instruction about timers, keys and memory. -/
theorem ofDeviceWord?_eq_none {x : Register} {nn : Byte} :
    ofDeviceWord? x nn = none ↔
      ∀ code ∈ ([0x07, 0x0A, 0x15, 0x18, 0x1E, 0x29, 0x33, 0x55, 0x65] : List Byte), nn ≠ code := by
  unfold ofDeviceWord?
  split <;> simp_all

/-- A word stands for no instruction iff it is unused. -/
theorem ofWord?_eq_none {word : Word} : ofWord? word = none ↔ word.IsUnused := by
  unfold ofWord?
  split
  case h_6 same | h_10 same => simp [Word.IsUnused, same]
  case h_9 same => simp [Word.IsUnused, same, Arithmetic.ofCode?_eq_none]
  case h_15 same => simp [Word.IsUnused, same, ofKeyWord?_eq_none]
  case h_16 =>
    -- the last branch is reached by the one digit that no other branch names
    have same : word.family = 0xF := by
      generalize word.family = family at *
      revert family
      decide
    simp [Word.IsUnused, same, ofDeviceWord?_eq_none]
  all_goals
    rename_i same
    simp [Word.IsUnused, same]

/-- No instruction is written as a word iff the word stands for none. -/
theorem encode_ne_iff {word : Word} :
    (∀ instruction, encode instruction ≠ word) ↔ ofWord? word = none := by
  constructor
  · intro unwritten
    cases known : ofWord? word with
    | none => rfl
    | some instruction => exact absurd (encode_of_ofWord? known) (unwritten instruction)
  · rintro unknown instruction rfl
    obtain ⟨other, known⟩ := exists_ofWord?_encode instruction
    rw [known] at unknown
    nomatch unknown

/-- Decoding accepts the words that stand for an instruction. -/
theorem decode_eq_ok {word : Word} {instruction : Instruction} :
    decode word = .ok instruction ↔ ofWord? word = some instruction := by
  cases known : ofWord? word <;> simp [decode, known]

/-- Decoding refuses all other words, for one reason. -/
theorem decode_eq_error {word : Word} {error : WordError} :
    decode word = .error error ↔ error = .unsupported word ∧ ofWord? word = none := by
  cases known : ofWord? word <;> simp [decode, known, eq_comm]

/-- Decoding and writing.

The instruction decoded from a word is written as this word. An instruction that has its own word is
decoded from it; these are all instructions but two, whose words clear the screen and return. Decoding
refuses a word, and names it then, iff no instruction is written as this word, and these words are
the unused ones. -/
theorem decoding_loses_nothing :
    (∀ word instruction, decode word = .ok instruction → instruction.encode = word) ∧
    (∀ instruction, decode (encode instruction) = .ok instruction ↔ instruction.HasOwnWord) ∧
    (∀ word error, decode word = .error error ↔
      error = .unsupported word ∧ ∀ instruction, encode instruction ≠ word) ∧
    (∀ word, (∀ instruction, encode instruction ≠ word) ↔ word.IsUnused) := by
  refine ⟨?_, ?_, ?_, ?_⟩
  · exact fun word instruction decoded => encode_of_ofWord? (decode_eq_ok.mp decoded)
  · exact fun instruction => decode_eq_ok.trans ⟨hasOwnWord_of_ofWord?, ofWord?_encode⟩
  · exact fun word error => decode_eq_error.trans (and_congr_right' encode_ne_iff.symm)
  · exact fun word => encode_ne_iff.trans ofWord?_eq_none

end Instruction
end ChipEight
