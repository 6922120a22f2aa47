import Chip8.Overlay
import Chip8.Word

/-!
# Main memory

Memory is 4096 bytes. A program is copied to `programStart`; below it, at `fontStart`, lie the
sprites of the sixteen hexadecimal digits. Addresses and lengths are integers of any size, and every
access names its whole range before anything is read or written: a range that does not lie in memory
is a fault, and a faulting write leaves every byte as it was.
-/

namespace Chip8

structure Memory where
  bytes : Vector UInt8 4096
  deriving DecidableEq, Repr

namespace Memory

def size : Nat := 4096

def programStart : Nat := 0x200

def fontStart : Nat := 0x50

def glyphSize : Nat := 5

/-- The sprites of the sixteen digits, one a line. -/
def font : List UInt8 := [
  0xF0, 0x90, 0x90, 0x90, 0xF0,
  0x20, 0x60, 0x20, 0x20, 0x70,
  0xF0, 0x10, 0xF0, 0x80, 0xF0,
  0xF0, 0x10, 0xF0, 0x10, 0xF0,
  0x90, 0x90, 0xF0, 0x10, 0x10,
  0xF0, 0x80, 0xF0, 0x10, 0xF0,
  0xF0, 0x80, 0xF0, 0x90, 0xF0,
  0xF0, 0x10, 0x20, 0x40, 0x40,
  0xF0, 0x90, 0xF0, 0x90, 0xF0,
  0xF0, 0x90, 0xF0, 0x10, 0xF0,
  0xF0, 0x90, 0xF0, 0x90, 0x90,
  0xE0, 0x90, 0xE0, 0x90, 0xE0,
  0xF0, 0x80, 0x80, 0x80, 0xF0,
  0xE0, 0x90, 0x90, 0x90, 0xE0,
  0xF0, 0x80, 0xF0, 0x80, 0xF0,
  0xF0, 0x80, 0xF0, 0x80, 0x80]

/-- The address of a digit's sprite. A number that is no digit gets the address at which its sprite
would lie. -/
def glyphAddress (digit : Int) : Int :=
  fontStart + glyphSize * digit

/-- Memory at power-on: the font, and zero everywhere else. -/
def powerOn : Memory :=
  ⟨overlay (Vector.replicate 4096 0) fontStart font⟩

/-- The byte at an address, and zero behind the end of memory. -/
def byte (memory : Memory) (address : Nat) : UInt8 :=
  memory.bytes[address]?.getD 0

def slice (memory : Memory) (start count : Nat) : List UInt8 :=
  (List.range' start count).map memory.byte

abbrev InRange (base length : Int) : Prop :=
  0 ≤ base ∧ 0 ≤ length ∧ base + length ≤ 4096

def read (memory : Memory) (base length : Int) : Except Fault (List UInt8) :=
  if InRange base length then .ok (memory.slice base.toNat length.toNat)
  else .error (.memoryAccess base length)

def readByte (memory : Memory) (address : Int) : Except Fault UInt8 :=
  if InRange address 1 then .ok (memory.byte address.toNat)
  else .error (.memoryAccess address 1)

def write (memory : Memory) (base : Int) (data : List UInt8) : Except Fault Memory :=
  if InRange base data.length then .ok ⟨overlay memory.bytes base.toNat data⟩
  else .error (.memoryAccess base data.length)

def load (memory : Memory) (program : List UInt8) : Except Fault Memory :=
  memory.write programStart program

@[simp]
theorem length_slice (memory : Memory) (start count : Nat) :
    (memory.slice start count).length = count := by
  simp [slice]

theorem getElem?_slice (memory : Memory) (start count offset : Nat) :
    (memory.slice start count)[offset]? =
      if offset < count then some (memory.byte (start + offset)) else none := by
  by_cases inside : offset < count <;> simp [slice, inside]

theorem read_eq_ok_iff {memory : Memory} {base length : Int} {data : List UInt8} :
    memory.read base length = .ok data ↔
      InRange base length ∧ memory.slice base.toNat length.toNat = data := by
  rw [read]
  split
  · rw [Except.ok.injEq, and_iff_right ‹_›]
  · simp [*]

theorem read_of_inside {memory : Memory} {start count : Nat} (inside : start + count ≤ 4096) :
    memory.read start count = .ok (memory.slice start count) := by
  apply read_eq_ok_iff.mpr
  refine ⟨?_, rfl⟩
  simp only [InRange]
  omega

theorem read_eq_error_iff {memory : Memory} {base length : Int} {fault : Fault} :
    memory.read base length = .error fault ↔
      ¬InRange base length ∧ fault = .memoryAccess base length := by
  rw [read]
  split <;> simp [*, eq_comm]

theorem write_eq_ok_iff {memory next : Memory} {base : Int} {data : List UInt8} :
    memory.write base data = .ok next ↔
      InRange base data.length ∧ ⟨overlay memory.bytes base.toNat data⟩ = next := by
  rw [write]
  split
  · rw [Except.ok.injEq, and_iff_right ‹_›]
  · simp [*]

theorem write_eq_error_iff {memory : Memory} {base : Int} {data : List UInt8} {fault : Fault} :
    memory.write base data = .error fault ↔
      ¬InRange base data.length ∧ fault = .memoryAccess base data.length := by
  rw [write]
  split <;> simp [*, eq_comm]

/-- Laying data over memory changes the bytes of its range and no others. -/
theorem byte_overlay (memory : Memory) (start : Nat) (data : List UInt8)
    (fits : start + data.length ≤ 4096) (address : Nat) :
    byte ⟨overlay memory.bytes start data⟩ address =
      if start ≤ address then data[address - start]?.getD (memory.byte address)
      else memory.byte address := by
  by_cases inside : address < 4096
  · simp only [byte, Vector.getElem?_eq_getElem inside, Option.getD_some]
    exact getElem_overlay memory.bytes start data address inside
  · have beyond : data[address - start]? = none := List.getElem?_eq_none (by omega)
    simp [byte, Vector.getElem?_eq_none (Nat.le_of_not_lt inside), beyond]

end Memory

end Chip8
