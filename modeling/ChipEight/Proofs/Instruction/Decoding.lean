import ChipEight.Instruction

/-!
# Which words stand for which instructions

The first digit of a word selects a family, and no instruction is decoded from words of two
families. So a word can be told from its digits where an instruction is meant: every word of
the family `2NNN` is a call, and no other; one word is a return.

Decoding loses nothing. A word is the sum of its digits, and the instruction read from a word is
written as that word again.
-/

namespace ChipEight

/-- Whether a word is of the form `2NNN`. -/
def Word.isCall (word : Word) : Bool := word.family == 0x2

/-- Whether a word is `00E0` or of the form `DXYN`. -/
def Word.isDrawing (word : Word) : Bool := word == 0x00E0 || word.family == 0xD

/-- Whether a word is of the form `FX0A`. -/
def Word.isAwaiting (word : Word) : Bool := word.family == 0xF && word.byte == 0x0A

namespace Instruction

/-- The family of the words that stand for an instruction. -/
def family : Instruction → Fin 16
  | system _ | clearScreen | ret => 0x0
  | jump _ => 0x1
  | call _ => 0x2
  | skipEqual _ _ => 0x3
  | skipNotEqual _ _ => 0x4
  | skipSame _ _ => 0x5
  | load _ _ => 0x6
  | add _ _ => 0x7
  | arithmetic _ _ _ => 0x8
  | skipDifferent _ _ => 0x9
  | loadIndex _ => 0xA
  | jumpOffset _ => 0xB
  | random _ _ => 0xC
  | draw _ _ _ => 0xD
  | skipDown _ | skipUp _ => 0xE
  | getDelay _ | awaitKey _ | setDelay _ | setSound _ | addIndex _ | glyph _ | storeDecimal _
  | storeRegisters _ | loadRegisters _ => 0xF

/-- The words about keys are in one family. -/
theorem family_of_ofKeyWord? {x : Register} {nn : Byte} {instruction : Instruction}
    (known : ofKeyWord? x nn = some instruction) : instruction.family = 0xE := by
  unfold ofKeyWord? at known
  split at known
  case h_3 => nomatch known
  all_goals
    obtain rfl := Option.some.inj known
    rfl

/-- The words about timers, keys and memory are in one family. -/
theorem family_of_ofDeviceWord? {x : Register} {nn : Byte} {instruction : Instruction}
    (known : ofDeviceWord? x nn = some instruction) : instruction.family = 0xF := by
  unfold ofDeviceWord? at known
  split at known
  case h_10 => nomatch known
  all_goals
    obtain rfl := Option.some.inj known
    rfl

/-- An instruction is decoded from words of its own family only. -/
theorem family_of_ofWord? {word : Word} {instruction : Instruction}
    (known : ofWord? word = some instruction) : instruction.family = word.family := by
  unfold ofWord? at known
  split at known
  case h_1 same =>
    obtain rfl := Option.some.inj known
    rw [same]
    split
    · rfl
    · split <;> rfl
  case h_6 same | h_10 same =>
    obtain ⟨_, found⟩ := Option.ite_none_right_eq_some.mp known
    obtain rfl := Option.some.inj found
    exact same.symm
  case h_9 same =>
    obtain ⟨operation, _, rfl⟩ := Option.map_eq_some_iff.mp known
    exact same.symm
  case h_15 same => exact (family_of_ofKeyWord? known).trans same.symm
  case h_16 =>
    -- the last branch is reached by the one digit that no other branch names
    rw [family_of_ofDeviceWord? known]
    clear known
    generalize word.family = family at *
    revert family
    decide
  all_goals
    rename_i same
    obtain rfl := Option.some.inj known
    exact same.symm

/-- The words `2NNN` are the calls. -/
theorem ofWord?_eq_call {word : Word} :
    (∃ nnn, ofWord? word = some (.call nnn)) ↔ word.isCall = true := by
  constructor
  · rintro ⟨nnn, known⟩
    exact beq_iff_eq.mpr (family_of_ofWord? known).symm
  · intro calls
    have same : word.family = 0x2 := beq_iff_eq.mp calls
    exact ⟨word.address, by simp [ofWord?, same]⟩

/-- The word `00EE` is the return. -/
theorem ofWord?_eq_ret {word : Word} : ofWord? word = some .ret ↔ word = 0x00EE := by
  constructor
  · intro known
    have same : word.family = 0x0 := (family_of_ofWord? known).symm
    simp only [ofWord?, same, Option.some.injEq] at known
    by_cases clears : word = 0x00E0
    · simp [clears] at known
    · by_cases returns : word = 0x00EE
      · exact returns
      · simp [clears, returns] at known
  · rintro rfl
    decide

end Instruction

/-- A word is made of its four digits. -/
theorem Word.toNat_digits (word : Word) :
    word.toNat = word.family.val * 4096 + word.x.val * 256 + word.y.val * 16 + word.n.val := by
  have bound : word.toNat < 65536 := word.toNat_lt
  simp only [family, x, y, n, Fin.val_ofNat]
  omega

/-- The lower three digits of a word are its address. -/
theorem Word.toNat_address (word : Word) :
    word.toNat = word.family.val * 4096 + word.address.val := by
  have bound : word.toNat < 65536 := word.toNat_lt
  simp only [family, address, Fin.val_ofNat]
  omega

/-- The lower two digits of a word are its byte. -/
theorem Word.toNat_byte (word : Word) :
    word.toNat = word.family.val * 4096 + word.x.val * 256 + word.byte.toNat := by
  have bound : word.toNat < 65536 := word.toNat_lt
  have low : word.byte.toNat = word.toNat % 256 := UInt8.toNat_ofNat'
  simp only [family, x, low, Fin.val_ofNat]
  omega

namespace Instruction

/-- A word of a family is put together again from its address. -/
theorem addressWord_of_family {word : Word} {family : Nat} (same : word.family.val = family) :
    addressWord family word.address = word := by
  rw [addressWord, ← same, ← word.toNat_address, UInt16.ofNat_toNat]

/-- A word of a family is put together again from its register and its byte. -/
theorem byteWord_of_family {word : Word} {family : Nat} (same : word.family.val = family) :
    byteWord family word.x word.byte = word := by
  rw [byteWord, ← same, ← word.toNat_byte, UInt16.ofNat_toNat]

/-- A word of a family is put together again from its lower three digits. -/
theorem pairWord_of_family {word : Word} {family : Nat} (same : word.family.val = family) :
    pairWord family word.x word.y word.n = word := by
  rw [pairWord, ← same, ← word.toNat_digits, UInt16.ofNat_toNat]

/-- The words about keys are written with the byte they are read from. -/
theorem encode_of_ofKeyWord? {x : Register} {nn : Byte} {instruction : Instruction}
    (known : ofKeyWord? x nn = some instruction) : instruction.encode = byteWord 0xE x nn := by
  unfold ofKeyWord? at known
  split at known
  case h_3 => nomatch known
  all_goals
    obtain rfl := Option.some.inj known
    rfl

/-- The words about timers, keys and memory are written with the byte they are read from. -/
theorem encode_of_ofDeviceWord? {x : Register} {nn : Byte} {instruction : Instruction}
    (known : ofDeviceWord? x nn = some instruction) : instruction.encode = byteWord 0xF x nn := by
  unfold ofDeviceWord? at known
  split at known
  case h_10 => nomatch known
  all_goals
    obtain rfl := Option.some.inj known
    rfl

end Instruction

/-- The digit that selects an operation is the digit it is read from. -/
theorem Arithmetic.code_of_ofCode? {digit : Fin 16} {operation : Arithmetic}
    (known : ofCode? digit = some operation) : operation.code = digit := by
  unfold ofCode? at known
  split at known
  case h_10 => nomatch known
  all_goals
    obtain rfl := Option.some.inj known
    rfl

namespace Instruction

/-- Nothing of a word is lost: the instruction it stands for is written as this word. -/
theorem encode_of_ofWord? {word : Word} {instruction : Instruction}
    (known : ofWord? word = some instruction) : instruction.encode = word := by
  have family := family_of_ofWord? known
  unfold ofWord? at known
  split at known
  case h_1 same =>
    split at known
    case isTrue clears =>
      obtain rfl := Option.some.inj known
      exact clears.symm
    case isFalse =>
    split at known
    case isTrue returns =>
      obtain rfl := Option.some.inj known
      exact returns.symm
    case isFalse =>
      obtain rfl := Option.some.inj known
      exact addressWord_of_family (congrArg Fin.val same)
  case h_6 same | h_10 same =>
    obtain ⟨last, found⟩ := Option.ite_none_right_eq_some.mp known
    obtain rfl := Option.some.inj found
    have whole := pairWord_of_family (congrArg Fin.val same)
    rw [last] at whole
    exact whole
  case h_9 same =>
    obtain ⟨operation, selected, rfl⟩ := Option.map_eq_some_iff.mp known
    have whole := pairWord_of_family (congrArg Fin.val same)
    rw [← Arithmetic.code_of_ofCode? selected] at whole
    exact whole
  case h_15 same => exact (encode_of_ofKeyWord? known).trans (byteWord_of_family (congrArg Fin.val same))
  case h_16 =>
    have same : word.family = 0xF := family.symm.trans (family_of_ofDeviceWord? known)
    exact (encode_of_ofDeviceWord? known).trans (byteWord_of_family (congrArg Fin.val same))
  case h_2 same | h_3 same | h_11 same | h_12 same =>
    obtain rfl := Option.some.inj known
    exact addressWord_of_family (congrArg Fin.val same)
  case h_14 same =>
    obtain rfl := Option.some.inj known
    exact pairWord_of_family (congrArg Fin.val same)
  all_goals
    rename_i same
    obtain rfl := Option.some.inj known
    exact byteWord_of_family (congrArg Fin.val same)

/-- A word with a constant holds it in its low byte. -/
theorem byte_byteWord (family : Nat) (x : Register) (nn : Byte) :
    (byteWord family x nn).byte = nn := by
  have bound : nn.toNat < 256 := nn.toNat_lt
  apply UInt8.toNat_inj.mp
  have low : (byteWord family x nn).byte.toNat = (byteWord family x nn).toNat % 256 :=
    UInt8.toNat_ofNat'
  have whole : (byteWord family x nn).toNat =
      (family * 4096 + x.val * 256 + nn.toNat) % 65536 := UInt16.toNat_ofNat'
  omega

/-- A word with a constant is written with its family and its register. -/
theorem digits_byteWord {family : Nat} (small : family < 16) (x : Register) (nn : Byte) :
    (byteWord family x nn).family.val = family ∧ (byteWord family x nn).x = x := by
  have bound : nn.toNat < 256 := nn.toNat_lt
  have below : x.val < 16 := x.isLt
  have whole : (byteWord family x nn).toNat =
      (family * 4096 + x.val * 256 + nn.toNat) % 65536 := UInt16.toNat_ofNat'
  refine ⟨?_, Fin.ext ?_⟩
  · rw [Word.family, Fin.val_ofNat]
    omega
  · rw [Word.x, Fin.val_ofNat]
    omega

/-- A word with two registers is written with its four digits. -/
theorem digits_pairWord {family : Nat} (small : family < 16) (x y : Register) (n : Fin 16) :
    (pairWord family x y n).family.val = family ∧ (pairWord family x y n).x = x ∧
      (pairWord family x y n).y = y ∧ (pairWord family x y n).n = n := by
  have below : x.val < 16 := x.isLt
  have belowToo : y.val < 16 := y.isLt
  have last : n.val < 16 := n.isLt
  have whole : (pairWord family x y n).toNat =
      (family * 4096 + x.val * 256 + y.val * 16 + n.val) % 65536 := UInt16.toNat_ofNat'
  refine ⟨?_, Fin.ext ?_, Fin.ext ?_, Fin.ext ?_⟩
  · rw [Word.family, Fin.val_ofNat]
    omega
  · rw [Word.x, Fin.val_ofNat]
    omega
  · rw [Word.y, Fin.val_ofNat]
    omega
  · rw [Word.n, Fin.val_ofNat]
    omega

/-- An operation on two registers is read with the registers it is written with. -/
theorem ofWord?_arithmeticWord (x y : Register) (n : Fin 16) :
    ofWord? (pairWord 0x8 x y n) = (Arithmetic.ofCode? n).map (arithmetic · x y) := by
  obtain ⟨family, first, second, last⟩ := digits_pairWord (by decide : 0x8 < 16) x y n
  have same : (pairWord 0x8 x y n).family = 0x8 := Fin.ext family
  simp [ofWord?, same, first, second, last]

/-- An addition of a constant is read with the register and the byte it is written with. -/
theorem ofWord?_addWord (x : Register) (nn : Byte) :
    ofWord? (byteWord 0x7 x nn) = some (add x nn) := by
  obtain ⟨family, register⟩ := digits_byteWord (by decide : 0x7 < 16) x nn
  have same : (byteWord 0x7 x nn).family = 0x7 := Fin.ext family
  simp [ofWord?, same, register, byte_byteWord]

/-- A word about timers, keys and memory is read with the register and the byte it is written
with. -/
theorem ofWord?_deviceWord (x : Register) (nn : Byte) :
    ofWord? (byteWord 0xF x nn) = ofDeviceWord? x nn := by
  obtain ⟨family, register⟩ := digits_byteWord (by decide : 0xF < 16) x nn
  have same : (byteWord 0xF x nn).family = 0xF := Fin.ext family
  simp [ofWord?, same, register, byte_byteWord]

/-- The word `00E0` clears the screen. -/
theorem ofWord?_eq_clearScreen {word : Word} : ofWord? word = some .clearScreen ↔ word = 0x00E0 := by
  constructor
  · intro known
    exact (encode_of_ofWord? known).symm
  · rintro rfl
    decide

/-- The words `DXYN` draw. -/
theorem ofWord?_eq_draw {word : Word} :
    (∃ x y n, ofWord? word = some (.draw x y n)) ↔ word.family = 0xD := by
  constructor
  · rintro ⟨x, y, n, known⟩
    exact (family_of_ofWord? known).symm
  · intro same
    exact ⟨word.x, word.y, word.n, by simp [ofWord?, same]⟩

/-- A word `FX0A` waits for a key, which it stores in the register it names. -/
theorem ofWord?_of_isAwaiting {word : Word} (awaits : word.isAwaiting = true) :
    ofWord? word = some (.awaitKey word.x) := by
  obtain ⟨same, low⟩ : word.family = 0xF ∧ word.byte = 0x0A := by
    simpa [Word.isAwaiting] using awaits
  simp [ofWord?, same, low, ofDeviceWord?]

/-- No other words wait for a key. -/
theorem ofWord?_eq_awaitKey {word : Word} :
    (∃ x, ofWord? word = some (.awaitKey x)) ↔ word.isAwaiting = true := by
  constructor
  · rintro ⟨x, known⟩
    have low : word.byte = 0x0A := by
      rw [← encode_of_ofWord? known]
      exact byte_byteWord 0xF x 0x0A
    rw [Word.isAwaiting, low, ← family_of_ofWord? known]
    rfl
  · exact fun awaits => ⟨word.x, ofWord?_of_isAwaiting awaits⟩

end Instruction
end ChipEight
