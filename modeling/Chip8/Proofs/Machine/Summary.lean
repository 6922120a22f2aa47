import Mathlib.Data.List.DropRight
import Chip8.Machine.Basic
import Chip8.Proofs.Numeral

/-!
# Reading a summary back

A summary is a line of words with a blank between any two. Each word ends in a number, and the
character in front of that number is no digit, not even one of base sixteen. So a word tells its
number, however many digits this has; and as no word contains a blank, the line tells its words.
Hence two machines have the same summary only if they agree on all that it shows.
-/

namespace Chip8

open Numeral

/-- What a summary shows of a machine. -/
structure Readings where
  pc : UInt16
  index : UInt16
  /-- The number of return addresses. -/
  pointer : Nat
  registers : RegisterFile
  deriving DecidableEq, Repr

namespace Readings

/-- The number at the end of a word. -/
def lastNumber (base : Nat) (word : List Char) : Nat :=
  value base (word.rtakeWhile hexSymbols.contains)

/-- Reads a summary word by word: program counter, index and number of return addresses, and then
the registers from V0 on. -/
def ofSummary (summary : String) : Readings :=
  let words := summary.toList.splitOn ' '
  let number (base position : Nat) : Nat := lastNumber base (words.getD position [])
  { pc := UInt16.ofNat (number 16 0)
    index := UInt16.ofNat (number 16 1)
    pointer := number 10 2
    registers := ⟨Vector.ofFn fun register => UInt8.ofNat (number 16 (3 + register))⟩ }

/-- A number is found behind any label that does not itself end in a digit. -/
theorem lastNumber_append {base : Nat} {label : List Char} (large : 2 ≤ base) (known : base ≤ 16)
    (closed : label.rtakeWhile hexSymbols.contains = []) (width number : Nat) :
    lastNumber base (label ++ natural base width number) = number := by
  have digits : ∀ character ∈ (natural base width number).reverse,
      hexSymbols.contains character = true := by
    intro character written
    rw [List.mem_reverse] at written
    simpa using mem_hexSymbols_of_base_le large known written
  have labelEnds : label.reverse.takeWhile hexSymbols.contains = [] := by
    simpa only [List.rtakeWhile, List.reverse_eq_nil_iff] using closed
  rw [lastNumber, List.rtakeWhile, List.reverse_append, List.takeWhile_append_of_pos digits,
    labelEnds, List.append_nil, List.reverse_reverse]
  exact value_natural large (Nat.le_trans known (by decide)) width number

end Readings

namespace Machine

open Readings

def readings (machine : Machine) : Readings where
  pc := machine.pc
  index := machine.index
  pointer := machine.stack.pointer
  registers := machine.registers

/-- The word of a summary that shows a register. -/
def registerWord (machine : Machine) (register : Register) : List Char :=
  'V' :: natural 16 0 register.val ++ [':'] ++ natural 16 2 (machine.registers.get register).toNat

def summaryWords (machine : Machine) : List (List Char) :=
  ("PC:0x".toList ++ natural 16 3 machine.pc.toNat) ::
    ("I:0x".toList ++ natural 16 3 machine.index.toNat) ::
      ("SP:".toList ++ natural 10 0 machine.stack.pointer) ::
        (List.finRange 16).map machine.registerWord

theorem toList_summary (machine : Machine) :
    machine.summary.toList = [' '].intercalate machine.summaryWords := by
  have registerWord_eq (register : Register) : machine.registerWord register =
      'V' :: (natural 16 0 register.val ++
        ':' :: natural 16 2 (machine.registers.get register).toNat) := by
    simp [registerWord]
  have registerWords_ne_nil : (List.finRange 16).map machine.registerWord ≠ [] := by simp
  rw [summaryWords, List.intercalate_cons_cons, List.intercalate_cons_cons,
    List.intercalate_cons_of_ne_nil registerWords_ne_nil, funext registerWord_eq]
  simp [summary, String.toList_intercalate, hex_natCast, decimal_natCast, Function.comp_def]

theorem blank_not_mem_summaryWords (machine : Machine) :
    ∀ word ∈ machine.summaryWords, ' ' ∉ word := by
  simp [summaryWords, registerWord, blank_not_mem_natural]

theorem splitOn_summary (machine : Machine) :
    machine.summary.toList.splitOn ' ' = machine.summaryWords := by
  rw [toList_summary]
  apply List.splitOn_intercalate ' ' machine.blank_not_mem_summaryWords
  simp [summaryWords]

theorem lastNumber_registerWord (machine : Machine) (register : Register) :
    lastNumber 16 (machine.registerWord register) = (machine.registers.get register).toNat := by
  apply lastNumber_append (by decide) (by decide)
  apply List.rtakeWhile_concat_neg
  decide

theorem getD_summaryWords (machine : Machine) (register : Register) :
    machine.summaryWords.getD (3 + register.val) [] = machine.registerWord register := by
  simp [summaryWords, Nat.add_comm 3]

theorem ofSummary_summary (machine : Machine) : ofSummary machine.summary = machine.readings := by
  have pc_eq : lastNumber 16 (machine.summaryWords.getD 0 []) = machine.pc.toNat :=
    lastNumber_append (by decide) (by decide) (by decide) 3 _
  have index_eq : lastNumber 16 (machine.summaryWords.getD 1 []) = machine.index.toNat :=
    lastNumber_append (by decide) (by decide) (by decide) 3 _
  have pointer_eq : lastNumber 10 (machine.summaryWords.getD 2 []) = machine.stack.pointer :=
    lastNumber_append (by decide) (by decide) (by decide) 0 _
  have registers_eq : RegisterFile.mk (Vector.ofFn fun register : Register =>
      UInt8.ofNat (lastNumber 16 (machine.summaryWords.getD (3 + register.val) []))) =
        machine.registers := by
    apply RegisterFile.ext
    intro register
    simp only [getD_summaryWords, lastNumber_registerWord]
    simp [RegisterFile.get]
  simp only [ofSummary, splitOn_summary, pc_eq, index_eq, pointer_eq, registers_eq,
    UInt16.ofNat_toNat]
  rfl

/-- A summary is read back, so it is the same for two machines if and only if they agree on the
program counter, the index, the number of return addresses and the registers. -/
theorem summary_tells_readings :
    (∀ machine : Machine, ofSummary machine.summary = machine.readings) ∧
      ∀ left right : Machine, left.summary = right.summary ↔
        left.pc = right.pc ∧ left.index = right.index ∧
          left.stack.pointer = right.stack.pointer ∧ left.registers = right.registers := by
  refine ⟨ofSummary_summary, ?_⟩
  intro left right
  constructor
  · intro same
    have sameReadings : left.readings = right.readings := by
      rw [← ofSummary_summary, same, ofSummary_summary]
    simpa [readings] using sameReadings
  · rintro ⟨samePc, sameIndex, samePointer, sameRegisters⟩
    simp only [summary, samePc, sameIndex, samePointer, sameRegisters]

/-- A program counter above 0xFFF takes a fourth digit, and twelve return addresses take two. -/
example : Machine.summary { powerOn ⟨0, 0⟩ with
    pc := 0x1ABC, index := 0xA, stack := ⟨Array.replicate 12 0, 12, by decide⟩ } =
      "PC:0x1ABC I:0x00A SP:12 V0:00 V1:00 V2:00 V3:00 V4:00 V5:00 V6:00 V7:00 " ++
        "V8:00 V9:00 VA:00 VB:00 VC:00 VD:00 VE:00 VF:00" := by
  decide +kernel

end Machine

end Chip8
