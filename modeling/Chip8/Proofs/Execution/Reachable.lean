import Chip8.Proofs.Display.PixelBytes
import Chip8.Proofs.Execution.Frame
import Chip8.Proofs.Execution.History

/-!
# Machines that programs reach

A booted machine keeps its addresses in bounds for ever. The bounds support each other: fetching
needs a program counter below 4095, so a call pushes at most 4096, so a return loads at most 4096;
every other way to move the program counter is bounded by the twelve bits of an operand plus a
byte. Hence none of the sums that move the program counter ever wraps.

The pixels are followed as bytes beside the machine: a grid that starts dark is drawn on by every
cycle that draws. Its bytes stay 0 and 1, and it is what the display shows.
-/

namespace Chip8

namespace Machine

/-- The program counter and the return stack are in bounds, and free slots are clear. -/
structure AddressesBounded (machine : Machine) : Prop where
  pc_le : machine.pc.toNat ≤ 0x10FE
  capacity_eq : machine.stack.capacity = 16
  pointer_le : machine.stack.pointer ≤ 16
  free_slot : ∀ index, machine.stack.pointer ≤ index → machine.stack.slot index = 0
  used_slot : ∀ index, index < machine.stack.pointer →
    2 ≤ (machine.stack.slot index).toNat ∧ (machine.stack.slot index).toNat ≤ 4096

/-- The cells of a machine and of the grid with its pixels are as many as they should be, and each
holds what fits it. -/
structure CellsInRange (machine : Machine) (pixels : PixelBytes) : Prop where
  memory_length : machine.memory.bytes.toList.length = 4096
  memory_byte : ∀ byte ∈ machine.memory.bytes.toList, byte.toNat ≤ 255
  registers_length : machine.registers.values.toList.length = 16
  registers_byte : ∀ byte ∈ machine.registers.values.toList, byte.toNat ≤ 255
  pixels_length : pixels.rowMajor.toList.length = 64 * 32
  pixel : ∀ byte ∈ pixels.rowMajor.toList, byte = 0 ∨ byte = 1
  shown : machine.display.framebuffer 1 0 = pixels.rowMajor
  index_le : machine.index.toNat ≤ 65535
  delay_le : machine.delay.value.toNat ≤ 255
  sound_le : machine.sound.value.toNat ≤ 255

theorem toNat_le (byte : UInt8) : byte.toNat ≤ 255 :=
  Nat.le_of_lt_succ byte.toNat_lt

theorem cellsInRange {machine : Machine} {pixels : PixelBytes} (binary : pixels.IsBinary)
    (same : machine.display.bytes = pixels) : machine.CellsInRange pixels where
  memory_length := Vector.length_toList
  memory_byte byte _ := toNat_le byte
  registers_length := Vector.length_toList
  registers_byte byte _ := toNat_le byte
  pixels_length := Vector.length_toList
  pixel _ among := binary.of_mem_rowMajor (Vector.mem_toList_iff.mp among)
  shown := same ▸ machine.display.framebuffer_one_zero
  index_le := Nat.le_of_lt_succ machine.index.toNat_lt
  delay_le := toNat_le machine.delay.value
  sound_le := toNat_le machine.sound.value

theorem toNat_pc_add {machine : Machine} (inside : machine.pc.toNat + 2 ≤ 4096)
    {distance : UInt16} (short : distance.toNat ≤ 4) :
    (machine.pc + distance).toNat = machine.pc.toNat + distance.toNat := by
  rw [UInt16.toNat_add]
  omega

theorem toNat_base_add {base : UInt16} (operand : base.toNat < 4096) (offset : UInt8) :
    (base + offset.toUInt16).toNat = base.toNat + offset.toNat := by
  have := toNat_le offset
  rw [UInt16.toNat_add, UInt8.toNat_toUInt16]
  omega

namespace AddressesBounded

variable {machine next : Machine}

theorem of_same_stack (bounded : machine.AddressesBounded) (sameStack : next.stack = machine.stack)
    (pc_le : next.pc.toNat ≤ 0x10FE) : next.AddressesBounded where
  pc_le := pc_le
  capacity_eq := sameStack ▸ bounded.capacity_eq
  pointer_le := sameStack ▸ bounded.pointer_le
  free_slot := sameStack ▸ bounded.free_slot
  used_slot := sameStack ▸ bounded.used_slot

theorem advance (bounded : machine.AddressesBounded) (inside : machine.pc.toNat + 2 ≤ 4096)
    (distance : UInt16) (short : distance.toNat ≤ 4) (sameStack : next.stack = machine.stack)
    (moved : next.pc = machine.pc + distance) : next.AddressesBounded := by
  apply bounded.of_same_stack sameStack
  rw [moved, toNat_pc_add inside short]
  omega

theorem call (bounded : machine.AddressesBounded) (inside : machine.pc.toNat + 2 ≤ 4096)
    {target : UInt16} (operand : target.toNat < 4096) {stack : ReturnStack}
    (pushed : machine.stack.push (machine.pc + 2) = .ok stack) :
    AddressesBounded { machine with stack, pc := target } := by
  rcases ReturnStack.of_push pushed with ⟨sameCapacity, counted, slots⟩
  have pushedAddress : (machine.pc + 2).toNat = machine.pc.toNat + 2 :=
    toNat_pc_add inside (by decide)
  have standard : stack.capacity = 16 := sameCapacity.trans bounded.capacity_eq
  have fits := stack.pointer_le
  refine ⟨by dsimp only; omega, standard, standard ▸ fits, ?_, ?_⟩
  · intro index free
    dsimp only at free ⊢
    rw [slots, if_neg (by omega)]
    exact bounded.free_slot index (by omega)
  · intro index used
    dsimp only at used ⊢
    rw [slots]
    split
    · omega
    · exact bounded.used_slot index (by omega)

theorem returnFromCall (bounded : machine.AddressesBounded) {address : UInt16}
    {stack : ReturnStack} (popped : machine.stack.pop = .ok (address, stack)) :
    AddressesBounded { machine with stack, pc := address } := by
  rcases ReturnStack.of_pop popped with ⟨sameCapacity, counted, newest, slots⟩
  have standard : stack.capacity = 16 := sameCapacity.trans bounded.capacity_eq
  have fits := stack.pointer_le
  have popped_le := (bounded.used_slot stack.pointer (by omega)).2
  refine ⟨by dsimp only; rw [newest]; omega, standard, standard ▸ fits, ?_, ?_⟩
  · intro index free
    dsimp only at free ⊢
    rw [slots]
    split
    · rfl
    · exact bounded.free_slot index (by omega)
  · intro index used
    dsimp only at used ⊢
    rw [slots, if_neg (by omega)]
    exact bounded.used_slot index (by omega)

/-- Every instruction keeps the bounds of a machine that could fetch it. -/
theorem performs (bounded : machine.AddressesBounded) (inside : machine.pc.toNat + 2 ≤ 4096)
    {opcode : Int} {input : Input} {byte : UInt8} {instruction : Instruction}
    (encoded : Instruction.Encodes opcode (Fields.ofOpcode opcode) instruction)
    (performed : machine.Performs input byte instruction next) : next.AddressesBounded := by
  have operand := Fields.nnn_lt opcode
  cases performed with
  | returnFromCall popped => exact bounded.returnFromCall popped
  | jump =>
      cases encoded with
      | jump family => exact bounded.of_same_stack rfl (by dsimp only; omega)
  | call pushed =>
      cases encoded with
      | call family => exact bounded.call inside operand pushed
  | @skipIf condition holds tested =>
      refine bounded.advance inside (if holds then 4 else 2) ?_ rfl rfl
      split <;> decide
  | jumpFrom =>
      cases encoded with
      | jumpFrom family =>
          have := toNat_le (machine.registers.get RegisterFile.firstRegister)
          refine bounded.of_same_stack rfl ?_
          dsimp only
          rw [toNat_base_add operand]
          omega
  | awaitNoKey quiet => exact bounded
  | _ => exact bounded.advance inside 2 (by decide) rfl rfl

theorem powerOn (key : WordPair) : (Machine.powerOn key).AddressesBounded where
  pc_le := by simp [Machine.powerOn, Memory.programStart]
  capacity_eq := by simp [Machine.powerOn, ReturnStack.capacity, ReturnStack.empty,
    ReturnStack.standardCapacity]
  pointer_le := by simp [Machine.powerOn, ReturnStack.empty]
  free_slot := by
    intro index _
    simp only [Machine.powerOn, ReturnStack.slot, ReturnStack.empty, Array.getElem?_replicate]
    split <;> rfl
  used_slot := by
    intro index used
    exact absurd used (Nat.not_lt_zero index)

end AddressesBounded

/-- A program fits if it ends where memory ends, and then it boots. -/
theorem exists_boot {key : WordPair} {program : List UInt8} (fits : program.length ≤ 3584) :
    ∃ memory, boot key program = .ok { powerOn key with memory } := by
  have inside : Memory.InRange Memory.programStart program.length := by
    simp only [Memory.InRange, Memory.programStart]
    omega
  refine ⟨⟨overlay (powerOn key).memory.bytes Memory.programStart program⟩, ?_⟩
  rw [boot, load, Memory.load, Memory.write, if_pos inside]
  rfl

/-- The sums that a completed cycle formed for the program counter did not wrap. -/
structure Unwrapped (opcode : Int) (before after : Machine) : Prop where
  pc_add_two : (before.pc + 2).toNat = before.pc.toNat + 2
  pc_add_four : (before.pc + 4).toNat = before.pc.toNat + 4
  pushed : ∀ target, Instruction.decode? opcode = some (.call target) →
    after.stack.toList.map UInt16.toNat =
      before.stack.toList.map UInt16.toNat ++ [before.pc.toNat + 2]
  jumped : ∀ base, Instruction.decode? opcode = some (.jumpFrom base) →
    after.pc.toNat =
      base.toNat + (before.registers.get RegisterFile.firstRegister).toNat

end Machine

namespace PixelBytes

/-- What performing an instruction makes of the bytes. -/
def perform (pixels : PixelBytes) (machine : Machine) : Instruction → PixelBytes
  | .clearScreen => dark
  | .draw column row height =>
      (pixels.draw (machine.memory.slice machine.index.toNat height)
        (machine.registers.get column).toNat (machine.registers.get row).toNat).1
  | _ => pixels

/-- What a completed cycle makes of the bytes, told from the system that it starts from. -/
def afterCycle (pixels : PixelBytes) (system : System) : PixelBytes :=
  system.pending?.elim pixels (pixels.perform system.machine)

/-- What the completed cycles of a run make of the bytes. -/
def afterRun (pixels : PixelBytes) (system : System) (stimuli : List Stimulus) : PixelBytes :=
  (system.path stimuli).foldl afterCycle pixels

namespace IsBinary

variable {pixels : PixelBytes}

theorem perform (binary : pixels.IsBinary) (machine : Machine) (instruction : Instruction) :
    (pixels.perform machine instruction).IsBinary := by
  cases instruction with
  | clearScreen => exact .dark
  | draw column row height => exact binary.blit _ _ _
  | _ => exact binary

theorem afterCycle (binary : pixels.IsBinary) (system : System) :
    (pixels.afterCycle system).IsBinary := by
  rw [PixelBytes.afterCycle]
  cases system.pending? with
  | none => exact binary
  | some instruction => exact binary.perform system.machine instruction

theorem afterRun (binary : pixels.IsBinary) (system : System) (stimuli : List Stimulus) :
    (pixels.afterRun system stimuli).IsBinary := by
  rw [PixelBytes.afterRun]
  induction system.path stimuli generalizing pixels with
  | nil => exact binary
  | cons before rest ih =>
      rw [List.foldl_cons]
      exact ih (binary.afterCycle before)

end IsBinary

end PixelBytes

/-- An instruction does to the pixels what it does to their bytes. -/
theorem Machine.Performs.bytes_eq {machine next : Machine} {input : Input} {byte : UInt8}
    {instruction : Instruction} (performs : machine.Performs input byte instruction next) :
    next.display.bytes = machine.display.bytes.perform machine instruction := by
  cases performs with
  | clearScreen => exact Display.bytes_clear machine.display
  | draw found =>
      rw [Memory.read_eq_ok_iff] at found
      rcases found with ⟨_, rfl⟩
      exact (congrArg Prod.fst (machine.display.draw_bytes ..)).symm
  | _ => rfl

/-- Every run from a machine with a dark display leaves it in bounds, whatever its input and its
random bytes. A further cycle that completes does not wrap. -/
def Machine.StaysBounded (machine : Machine) : Prop :=
  ∀ source stimuli, ∀ reached, reached = (System.run ⟨machine, source⟩ stimuli).1 →
    reached.machine.AddressesBounded ∧
      reached.machine.CellsInRange (PixelBytes.dark.afterRun ⟨machine, source⟩ stimuli) ∧
      ∀ stimulus opcode next, reached.machine.fetch = .ok opcode →
        reached.cycle stimulus = .ok next →
          Unwrapped opcode.toNat reached.machine next.machine

namespace System

theorem bytes_of_cycle (system : System) (stimulus : Stimulus) (next : System)
    (completed : system.cycle stimulus = .ok next) :
    next.machine.display.bytes = system.machine.display.bytes.afterCycle system := by
  rcases exists_performs_pending completed with ⟨instruction, performed, pending, performs, rfl⟩
  rcases exists_key_supply system.clearDirty instruction with ⟨key, supplied⟩
  rw [supplied] at performs
  rw [tickIf_display, performs.bytes_eq, PixelBytes.afterCycle, pending]
  rfl

/-- The bytes follow the display through a run. -/
theorem bytes_run (system : System) (stimuli : List Stimulus) :
    (system.run stimuli).1.machine.display.bytes =
      system.machine.display.bytes.afterRun system stimuli :=
  run_eq_foldl_path (·.machine.display.bytes) PixelBytes.afterCycle bytes_of_cycle system stimuli

theorem addressesBounded_of_cycle (system : System) (stimulus : Stimulus) (next : System)
    (bounded : system.machine.AddressesBounded) (completed : system.cycle stimulus = .ok next) :
    next.machine.AddressesBounded := by
  rcases exists_performs_of_cycle completed with
    ⟨opcode, instruction, performed, fetched, encoded, performs, rfl⟩
  have inside := (Machine.fetch_eq_ok_iff.mp fetched).1
  have supplied : (system.clearDirty.supply instruction).machine.AddressesBounded :=
    bounded.of_same_stack (supply_stack ..) (by rw [supply_pc]; exact bounded.pc_le)
  have after : performed.AddressesBounded :=
    supplied.performs (by rw [supply_pc]; exact inside) encoded performs
  exact after.of_same_stack (tickIf_stack ..) (by rw [tickIf_pc]; exact after.pc_le)

theorem unwrapped_of_cycle {system next : System} {stimulus : Stimulus} {opcode : UInt16}
    (fetched : system.machine.fetch = .ok opcode) (completed : system.cycle stimulus = .ok next) :
    Machine.Unwrapped opcode.toNat system.machine next.machine := by
  rcases exists_performs_of_cycle completed with
    ⟨same, instruction, performed, refetched, encoded, performs, rfl⟩
  rw [fetched, Except.ok.injEq] at refetched
  subst refetched
  have inside := (Machine.fetch_eq_ok_iff.mp fetched).1
  have decoded := Instruction.decode?_eq_some_iff.mpr encoded
  refine ⟨Machine.toNat_pc_add inside (by decide), Machine.toNat_pc_add inside (by decide), ?_, ?_⟩
  · intro target called
    rw [called, Option.some.injEq] at decoded
    subst decoded
    cases performs with
    | call pushed =>
        have returned : (system.machine.pc + 2).toNat = system.machine.pc.toNat + 2 :=
          Machine.toNat_pc_add inside (by decide)
        rw [tickIf_stack]
        dsimp only
        rw [ReturnStack.toList_push pushed, List.map_append, List.map_singleton, supply_stack,
          supply_pc, clearDirty_stack, clearDirty_pc, returned]
  · intro base jumped
    rw [jumped, Option.some.injEq] at decoded
    subst decoded
    cases performs with
    | jumpFrom =>
        cases encoded with
        | jumpFrom family =>
            rw [tickIf_pc]
            dsimp only
            rw [Machine.toNat_base_add (Fields.nnn_lt _), supply_registers, clearDirty_registers]

end System

namespace Machine

/-- A program that fits boots, and no run of it leaves the bounds. -/
theorem exists_boot_staysBounded (key : WordPair) (program : List UInt8)
    (fits : program.length ≤ 3584) :
    ∃ machine, boot key program = .ok machine ∧ machine.StaysBounded := by
  rcases exists_boot fits with ⟨memory, booted⟩
  refine ⟨_, booted, ?_⟩
  rintro source stimuli reached rfl
  refine ⟨?_, ?_, ?_⟩
  · apply System.run_preserves System.addressesBounded_of_cycle
    exact (AddressesBounded.powerOn key).of_same_stack rfl (AddressesBounded.powerOn key).pc_le
  · have startsDark : (powerOn key).display.bytes = .dark := Display.blank.bytes_clear
    apply cellsInRange
    · exact PixelBytes.IsBinary.dark.afterRun _ stimuli
    · rw [System.bytes_run, ← startsDark]
  · intro stimulus opcode next fetched completed
    exact System.unwrapped_of_cycle fetched completed

/-- A program that calls its own entry until the stack overflows. -/
theorem exists_boot_staysBounded_recursion :
    [(0x22 : UInt8), 0x00].length ≤ 3584 ∧
      ∃ machine, boot ⟨0, 7⟩ [0x22, 0x00] = .ok machine ∧ machine.StaysBounded :=
  ⟨by decide, exists_boot_staysBounded ⟨0, 7⟩ [0x22, 0x00] (by decide)⟩

end Machine

end Chip8
