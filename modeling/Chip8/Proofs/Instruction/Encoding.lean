import Mathlib
import Chip8.Instruction.Basic

/-!
# The opcode table

`Instruction.Encodes` lists, instruction by instruction, the opcodes that stand for it, and
`Instruction.Unassigned` the opcodes that stand for none. The decoder finds exactly what the table
lists, so later proofs argue by the rows of the table and leave the decoder closed.
-/

namespace Chip8

namespace Fields

/-- An address operand has twelve bits. -/
theorem nnn_lt (opcode : Int) : (ofOpcode opcode).nnn.toNat < 4096 := by
  simp only [ofOpcode, UInt16.toNat_ofNat']
  omega

end Fields

namespace Arithmetic

theorem ofDigit?_eq_some_iff {digit : Fin 16} {operation : Arithmetic} :
    ofDigit? digit = some operation ↔ digit.val = operation.digit := by
  cases operation <;> revert digit <;> decide

theorem ofDigit?_eq_none_iff {digit : Fin 16} :
    ofDigit? digit = none ↔ ¬digit ≤ 7 ∧ digit ≠ 0xE := by
  revert digit
  decide

end Arithmetic

namespace Instruction

/-- An opcode with the given fields stands for an instruction. -/
inductive Encodes (opcode : Int) (fields : Fields) : Instruction → Prop where
  | clearScreen (exact : opcode = 0x00E0) : Encodes opcode fields .clearScreen
  | returnFromCall (exact : opcode = 0x00EE) : Encodes opcode fields .returnFromCall
  | jump (family : fields.family = 0x1) : Encodes opcode fields (.jump fields.nnn)
  | call (family : fields.family = 0x2) : Encodes opcode fields (.call fields.nnn)
  | skipIfHolds (family : fields.family = 0x3) :
      Encodes opcode fields (.skipIf (.holds fields.x fields.nn))
  | skipIfDiffers (family : fields.family = 0x4) :
      Encodes opcode fields (.skipIf (.differs fields.x fields.nn))
  | skipIfSame (family : fields.family = 0x5) (last : fields.n = 0) :
      Encodes opcode fields (.skipIf (.same fields.x fields.y))
  | setByte (family : fields.family = 0x6) :
      Encodes opcode fields (.setByte fields.x fields.nn)
  | addByte (family : fields.family = 0x7) :
      Encodes opcode fields (.addByte fields.x fields.nn)
  | arithmetic (operation : Arithmetic) (family : fields.family = 0x8)
      (last : fields.n.val = operation.digit) :
      Encodes opcode fields (.arithmetic operation fields.x fields.y)
  | skipIfDistinct (family : fields.family = 0x9) (last : fields.n = 0) :
      Encodes opcode fields (.skipIf (.distinct fields.x fields.y))
  | setIndex (family : fields.family = 0xA) : Encodes opcode fields (.setIndex fields.nnn)
  | jumpFrom (family : fields.family = 0xB) : Encodes opcode fields (.jumpFrom fields.nnn)
  | random (family : fields.family = 0xC) : Encodes opcode fields (.random fields.x fields.nn)
  | draw (family : fields.family = 0xD) :
      Encodes opcode fields (.draw fields.x fields.y fields.n)
  | skipIfKeyDown (family : fields.family = 0xE) (low : fields.nn = 0x9E) :
      Encodes opcode fields (.skipIf (.keyDown fields.x))
  | skipIfKeyUp (family : fields.family = 0xE) (low : fields.nn = 0xA1) :
      Encodes opcode fields (.skipIf (.keyUp fields.x))
  | readDelay (family : fields.family = 0xF) (low : fields.nn = 0x07) :
      Encodes opcode fields (.readDelay fields.x)
  | awaitKey (family : fields.family = 0xF) (low : fields.nn = 0x0A) :
      Encodes opcode fields (.awaitKey fields.x)
  | setDelay (family : fields.family = 0xF) (low : fields.nn = 0x15) :
      Encodes opcode fields (.setDelay fields.x)
  | setSound (family : fields.family = 0xF) (low : fields.nn = 0x18) :
      Encodes opcode fields (.setSound fields.x)
  | addToIndex (family : fields.family = 0xF) (low : fields.nn = 0x1E) :
      Encodes opcode fields (.addToIndex fields.x)
  | pointAtGlyph (family : fields.family = 0xF) (low : fields.nn = 0x29) :
      Encodes opcode fields (.pointAtGlyph fields.x)
  | storeDecimal (family : fields.family = 0xF) (low : fields.nn = 0x33) :
      Encodes opcode fields (.storeDecimal fields.x)
  | storeRegisters (family : fields.family = 0xF) (low : fields.nn = 0x55) :
      Encodes opcode fields (.storeRegisters fields.x)
  | loadRegisters (family : fields.family = 0xF) (low : fields.nn = 0x65) :
      Encodes opcode fields (.loadRegisters fields.x)

/-- An opcode with the given fields stands for no instruction. -/
inductive Unassigned (opcode : Int) (fields : Fields) : Prop where
  | system (family : fields.family = 0x0) (notClear : opcode ≠ 0x00E0) (notReturn : opcode ≠ 0x00EE)
  | skip (family : fields.family = 0x5 ∨ fields.family = 0x9) (last : fields.n ≠ 0)
  | arithmetic (family : fields.family = 0x8) (above : ¬fields.n ≤ 7) (notShift : fields.n ≠ 0xE)
  | keypad (family : fields.family = 0xE) (low : fields.nn ∉ [0x9E, 0xA1])
  | miscellaneous (family : fields.family = 0xF)
      (low : fields.nn ∉ [0x07, 0x0A, 0x15, 0x18, 0x1E, 0x29, 0x33, 0x55, 0x65])

theorem encodes_of_system? {opcode : Int} {fields : Fields} {instruction : Instruction}
    (decoded : system? opcode = some instruction) : Encodes opcode fields instruction := by
  rw [system?] at decoded
  split at decoded
  · cases decoded
    exact .clearScreen ‹_›
  · split at decoded
    · cases decoded
      exact .returnFromCall ‹_›
    · contradiction

theorem encodes_of_keypad? {opcode : Int} {fields : Fields} {instruction : Instruction}
    (family : fields.family = 0xE)
    (decoded : keypad? fields.x fields.nn.toNat = some instruction) :
    Encodes opcode fields instruction := by
  unfold keypad? at decoded
  split at decoded
  · cases decoded
    exact .skipIfKeyDown family (UInt8.toNat_inj.mp ‹_›)
  · cases decoded
    exact .skipIfKeyUp family (UInt8.toNat_inj.mp ‹_›)
  · contradiction

theorem encodes_of_miscellaneous? {opcode : Int} {fields : Fields} {instruction : Instruction}
    (family : fields.family = 0xF)
    (decoded : miscellaneous? fields.x fields.nn.toNat = some instruction) :
    Encodes opcode fields instruction := by
  unfold miscellaneous? at decoded
  split at decoded
  · cases decoded
    exact .readDelay family (UInt8.toNat_inj.mp ‹_›)
  · cases decoded
    exact .awaitKey family (UInt8.toNat_inj.mp ‹_›)
  · cases decoded
    exact .setDelay family (UInt8.toNat_inj.mp ‹_›)
  · cases decoded
    exact .setSound family (UInt8.toNat_inj.mp ‹_›)
  · cases decoded
    exact .addToIndex family (UInt8.toNat_inj.mp ‹_›)
  · cases decoded
    exact .pointAtGlyph family (UInt8.toNat_inj.mp ‹_›)
  · cases decoded
    exact .storeDecimal family (UInt8.toNat_inj.mp ‹_›)
  · cases decoded
    exact .storeRegisters family (UInt8.toNat_inj.mp ‹_›)
  · cases decoded
    exact .loadRegisters family (UInt8.toNat_inj.mp ‹_›)
  · contradiction

theorem encodes_of_decode? {opcode : Int} {instruction : Instruction}
    (decoded : decode? opcode = some instruction) :
    Encodes opcode (Fields.ofOpcode opcode) instruction := by
  simp only [decode?] at decoded
  generalize Fields.ofOpcode opcode = fields at decoded ⊢
  split at decoded
  · exact encodes_of_system? decoded
  · cases decoded
    exact .jump (Fin.ext ‹_›)
  · cases decoded
    exact .call (Fin.ext ‹_›)
  · cases decoded
    exact .skipIfHolds (Fin.ext ‹_›)
  · cases decoded
    exact .skipIfDiffers (Fin.ext ‹_›)
  · split at decoded
    · cases decoded
      exact .skipIfSame (Fin.ext ‹_›) (Fin.ext ‹_›)
    · contradiction
  · cases decoded
    exact .setByte (Fin.ext ‹_›)
  · cases decoded
    exact .addByte (Fin.ext ‹_›)
  · rcases Option.map_eq_some_iff.mp decoded with ⟨operation, digit, rfl⟩
    exact .arithmetic operation (Fin.ext ‹_›) (Arithmetic.ofDigit?_eq_some_iff.mp digit)
  · split at decoded
    · cases decoded
      exact .skipIfDistinct (Fin.ext ‹_›) (Fin.ext ‹_›)
    · contradiction
  · cases decoded
    exact .setIndex (Fin.ext ‹_›)
  · cases decoded
    exact .jumpFrom (Fin.ext ‹_›)
  · cases decoded
    exact .random (Fin.ext ‹_›)
  · cases decoded
    exact .draw (Fin.ext ‹_›)
  · exact encodes_of_keypad? (Fin.ext ‹_›) decoded
  · have family : fields.family = 0xF := by grind
    exact encodes_of_miscellaneous? family decoded

theorem decode?_of_encodes {opcode : Int} {instruction : Instruction}
    (encoded : Encodes opcode (Fields.ofOpcode opcode) instruction) :
    decode? opcode = some instruction := by
  cases encoded with
  | clearScreen exact => subst exact; rfl
  | returnFromCall exact => subst exact; rfl
  | arithmetic operation family last =>
      simp [decode?, family, Arithmetic.ofDigit?_eq_some_iff.mpr last]
  | _ => simp [decode?, keypad?, miscellaneous?, *]

/-- The decoder finds the instructions of the table. -/
theorem decode?_eq_some_iff {opcode : Int} {instruction : Instruction} :
    decode? opcode = some instruction ↔ Encodes opcode (Fields.ofOpcode opcode) instruction :=
  ⟨encodes_of_decode?, decode?_of_encodes⟩

theorem keypad?_eq_none_iff {x : Register} {low : UInt8} :
    keypad? x low.toNat = none ↔ low ∉ [0x9E, 0xA1] := by
  unfold keypad?
  split <;> simp_all [← UInt8.toNat_inj]

theorem miscellaneous?_eq_none_iff {x : Register} {low : UInt8} :
    miscellaneous? x low.toNat = none ↔
      low ∉ [0x07, 0x0A, 0x15, 0x18, 0x1E, 0x29, 0x33, 0x55, 0x65] := by
  unfold miscellaneous?
  split <;> simp_all [← UInt8.toNat_inj]

theorem unassigned_of_decode? {opcode : Int} (undecoded : decode? opcode = none) :
    Unassigned opcode (Fields.ofOpcode opcode) := by
  simp only [decode?] at undecoded
  generalize Fields.ofOpcode opcode = fields at undecoded ⊢
  split at undecoded
  · rw [system?] at undecoded
    split at undecoded
    · contradiction
    · split at undecoded
      · contradiction
      · exact .system (Fin.ext ‹_›) ‹_› ‹_›
  · contradiction
  · contradiction
  · contradiction
  · contradiction
  · split at undecoded
    · contradiction
    · exact .skip (.inl (Fin.ext ‹_›)) (Fin.ne_of_val_ne ‹_›)
  · contradiction
  · contradiction
  · rcases Arithmetic.ofDigit?_eq_none_iff.mp (Option.map_eq_none_iff.mp undecoded) with
      ⟨above, notShift⟩
    exact .arithmetic (Fin.ext ‹_›) above notShift
  · split at undecoded
    · contradiction
    · exact .skip (.inr (Fin.ext ‹_›)) (Fin.ne_of_val_ne ‹_›)
  · contradiction
  · contradiction
  · contradiction
  · contradiction
  · exact .keypad (Fin.ext ‹_›) (keypad?_eq_none_iff.mp undecoded)
  · have family : fields.family = 0xF := by grind
    exact .miscellaneous family (miscellaneous?_eq_none_iff.mp undecoded)

/-- The decoder rejects the opcodes that stand for no instruction. -/
theorem decode?_eq_none_iff {opcode : Int} :
    decode? opcode = none ↔ Unassigned opcode (Fields.ofOpcode opcode) := by
  refine ⟨unassigned_of_decode?, ?_⟩
  intro unassigned
  cases unassigned with
  | system family notClear notReturn => simp [decode?, family, system?, notClear, notReturn]
  | skip family last => rcases family with family | family <;> simp [decode?, family, last]
  | arithmetic family above notShift =>
      simp [decode?, family, Arithmetic.ofDigit?_eq_none_iff.mpr ⟨above, notShift⟩]
  | keypad family low => simp [decode?, family, keypad?_eq_none_iff.mpr low]
  | miscellaneous family low => simp [decode?, family, miscellaneous?_eq_none_iff.mpr low]

end Instruction

end Chip8
