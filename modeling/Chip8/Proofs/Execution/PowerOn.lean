import Chip8.Proofs.Execution.Reachable
import Chip8.Proofs.Memory.Access

/-!
# The machine at power-on

A machine is booted by laying two things over a memory of zeros: the font, and behind it the program
from its own address to wherever it ends. They do not meet, so each is there as a whole. An opcode
is fetched high byte first at any address of the program, odd ones among them, and it cannot be
fetched where it would need a byte behind the end of memory.
-/

namespace Chip8

namespace Memory

variable {memory : Memory} {program : List UInt8}

theorem length_font : font.length = 80 :=
  rfl

theorem byte_powerOn (address : Nat) :
    powerOn.byte address =
      if fontStart ≤ address then font[address - fontStart]?.getD 0 else 0 := by
  have zero : byte ⟨Vector.replicate 4096 0⟩ address = 0 := by
    rw [byte, Vector.getElem?_replicate]
    split <;> rfl
  rw [powerOn, byte_overlay ⟨Vector.replicate 4096 0⟩ fontStart font (by decide), zero]

/-- The program begins behind the font, and so it leaves the font as it is. -/
theorem holds_font_of_load (loaded : powerOn.load program = .ok memory) :
    memory.Holds fontStart font := by
  intro offset byte found
  have inFont : offset < 80 := (List.getElem?_eq_some_iff.mp found).1
  rw [load] at loaded
  have outside : ¬(programStart ≤ fontStart + offset ∧
      fontStart + offset < programStart + program.length) := by
    simp only [programStart, fontStart]
    omega
  rw [byte_of_write loaded outside, byte_powerOn, if_pos (Nat.le_add_right ..),
    Nat.add_sub_cancel_left, found, Option.getD_some]

theorem byte_of_load_of_outside (loaded : powerOn.load program = .ok memory) {address : Nat}
    (outsideFont : ¬(fontStart ≤ address ∧ address < fontStart + font.length))
    (outside : ¬(programStart ≤ address ∧ address < programStart + program.length)) :
    memory.byte address = 0 := by
  rw [load] at loaded
  rw [byte_of_write loaded outside, byte_powerOn]
  split
  · rw [List.getElem?_eq_none (by omega), Option.getD_none]
  · rfl

end Memory

namespace Machine

variable {machine : Machine} {program : List UInt8} {address offset : Nat} {high low : UInt8}

theorem fetch_eq_error_iff {cause : Fault} :
    machine.fetch = .error cause ↔
      4095 ≤ machine.pc.toNat ∧ cause = .memoryAccess machine.pc.toNat 2 := by
  rw [fetch, Outcome.map_eq_error_iff, Memory.read_eq_error_iff]
  apply and_congr_left
  rintro rfl
  simp only [Memory.InRange]
  omega

/-- Two bytes of the memory that a machine holds are fetched as one opcode. -/
theorem exists_fetch_of_holds (holds : machine.memory.Holds address program)
    (first : program[offset]? = some high) (second : program[offset + 1]? = some low)
    (inside : address + program.length ≤ 4096)
    (pc_eq : machine.pc = UInt16.ofNat (address + offset)) :
    ∃ opcode, machine.fetch = .ok opcode ∧
      opcode.toNat = 256 * high.toNat + low.toNat := by
  have below := (List.getElem?_eq_some_iff.mp second).1
  have pc_toNat : machine.pc.toNat = address + offset := by
    rw [pc_eq, UInt16.toNat_ofNat']
    omega
  refine ⟨_, fetch_eq_ok_iff.mpr ⟨by omega, rfl⟩, ?_⟩
  have high_le := toNat_le high
  have low_le := toNat_le low
  rw [pc_toNat, holds _ _ first, Nat.add_assoc, holds _ _ second, UInt16.toNat_ofNat']
  omega

theorem boot_eq_ok_iff {key : WordPair} :
    boot key program = .ok machine ↔
      ∃ memory, Memory.powerOn.load program = .ok memory ∧
        { powerOn key with memory } = machine := by
  rw [boot, load, Outcome.map_eq_ok_iff]
  rfl

theorem boot_eq_error_iff {key : WordPair} {cause : Fault} :
    boot key program = .error cause ↔
      3584 < program.length ∧ cause = .memoryAccess 0x200 program.length := by
  rw [boot, load, Outcome.map_eq_error_iff, Memory.load, Memory.write_eq_error_iff]
  apply and_congr
  · simp only [Memory.InRange, Memory.programStart]
    omega
  · rfl

/-- A program that does not fit behind its address is refused. Otherwise memory holds the font and
the program and is zero elsewhere, and an opcode is fetched from any two bytes of the program that
follow each other. A fetch is refused just where its second byte would lie behind memory. -/
theorem boot_lays_out_memory :
    (∀ (key : WordPair) (program : List UInt8),
      if program.length ≤ 3584 then
        ∃ machine, boot key program = .ok machine ∧
          (Memory.font.length = 80 ∧ machine.memory.Holds 0x50 Memory.font) ∧
          machine.memory.Holds 0x200 program ∧
          (∀ address, ¬(0x50 ≤ address ∧ address ≤ 0x9F) →
            ¬(0x200 ≤ address ∧ address < 0x200 + program.length) →
              machine.memory.byte address = 0) ∧
          ∀ offset high low, program[offset]? = some high → program[offset + 1]? = some low →
            ∃ opcode, { machine with pc := UInt16.ofNat (0x200 + offset) }.fetch = .ok opcode ∧
              opcode.toNat = 256 * high.toNat + low.toNat ∧ opcode.toNat ≤ 65535
      else boot key program = .error (.memoryAccess 0x200 program.length)) ∧
    ∀ (machine : Machine) (cause : Fault), machine.fetch = .error cause ↔
      4095 ≤ machine.pc.toNat ∧ cause = .memoryAccess machine.pc.toNat 2 := by
  refine ⟨?_, fun machine cause => fetch_eq_error_iff⟩
  intro key program
  split
  · rename_i fits
    rcases exists_boot fits with ⟨_, booted⟩
    rcases boot_eq_ok_iff.mp booted with ⟨memory, loaded, same⟩
    have holdsProgram := Memory.holds_of_load loaded
    refine ⟨_, booted, ?_⟩
    rw [← same]
    refine ⟨⟨Memory.length_font, Memory.holds_font_of_load loaded⟩, holdsProgram, ?_, ?_⟩
    · intro address outsideFont outside
      refine Memory.byte_of_load_of_outside loaded ?_ outside
      rw [Memory.length_font, Memory.fontStart]
      omega
    · intro offset high low first second
      have inside : 0x200 + program.length ≤ 4096 := by omega
      let moved : Machine := { powerOn key with memory, pc := UInt16.ofNat (0x200 + offset) }
      have holdsMoved : moved.memory.Holds 0x200 program := holdsProgram
      rcases exists_fetch_of_holds holdsMoved first second inside rfl with
        ⟨opcode, fetched, opcode_eq⟩
      exact ⟨opcode, fetched, opcode_eq, Nat.le_of_lt_succ opcode.toNat_lt⟩
  · exact boot_eq_error_iff.mpr ⟨by omega, rfl⟩

/-- A program of three bytes: its last two are an opcode at an odd address, and the byte behind them
is zero. -/
theorem threeBytes_lie_in_memory :
    [(0x6A : UInt8), 0x07, 0xA2].length ≤ 3584 ∧
      ∃ machine, boot ⟨0, 7⟩ [0x6A, 0x07, 0xA2] = .ok machine ∧
        (machine.memory.byte 0x9F = 0x80 ∧ machine.memory.byte 0x202 = 0xA2 ∧
          machine.memory.byte 0x203 = 0) ∧
        (∃ opcode, { machine with pc := UInt16.ofNat (0x200 + 1) }.fetch = .ok opcode ∧
          opcode.toNat = 0x07A2) ∧
        { machine with pc := 0xFFF }.fetch = .error (.memoryAccess 0xFFF 2) := by
  rcases boot_lays_out_memory with ⟨booting, fetching⟩
  have fits : [(0x6A : UInt8), 0x07, 0xA2].length ≤ 3584 := by decide
  have laidOut := booting ⟨0, 7⟩ [0x6A, 0x07, 0xA2]
  rw [if_pos fits] at laidOut
  rcases laidOut with ⟨machine, booted, ⟨_, font⟩, program, elsewhere, fetched⟩
  rcases fetched 1 0x07 0xA2 rfl rfl with ⟨opcode, found, opcode_eq, _⟩
  refine ⟨fits, machine, booted, ⟨font 79 0x80 rfl, program 2 0xA2 rfl, ?_⟩,
    ⟨opcode, found, opcode_eq⟩, ?_⟩
  · exact elsewhere 0x203 (by decide) (by decide)
  · have last : 4095 ≤ (0xFFF : UInt16).toNat := by decide
    exact (fetching _ _).mpr ⟨last, rfl⟩

end Machine

end Chip8
