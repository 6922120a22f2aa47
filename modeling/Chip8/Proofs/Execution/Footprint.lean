import Chip8.Proofs.Execution.Stores

/-!
# What a cycle reads from memory

A cycle reads the two bytes of its opcode, and if that draws a sprite or loads registers, the bytes
of the sprite or of the registers. Every other byte of memory may be anything: the cycle completes
or faults just the same, leaves the same machine apart from memory, and leaves in memory the bytes
that it stores over those that were there.
-/

namespace Chip8

/-- The number of bytes that an instruction reads from the index on. -/
def Instruction.readLength? : Instruction → Option Nat
  | .draw _ _ height => some height
  | .loadRegisters last => some (last + 1)
  | _ => none

namespace Memory

/-- Two memories hold the same bytes in a range. -/
def AgreeOn (left right : Memory) (start count : Nat) : Prop :=
  ∀ address, start ≤ address → address < start + count → left.byte address = right.byte address

variable {left right : Memory}

theorem AgreeOn.slice_eq {start count : Nat} (agree : left.AgreeOn right start count) :
    left.slice start count = right.slice start count := by
  apply List.map_congr_left
  intro address among
  rcases List.mem_range'_1.mp among with ⟨above, below⟩
  exact agree address above below

theorem AgreeOn.read_eq {start count : Nat} (agree : left.AgreeOn right start count) :
    left.read start count = right.read start count := by
  have same : left.slice (start : Int).toNat (count : Int).toNat =
      right.slice (start : Int).toNat (count : Int).toNat := agree.slice_eq
  rw [read, read, same]

/-- Whether data can be stored depends on its range only. -/
theorem exists_write {base : Int} {data : List UInt8} {next : Memory}
    (written : left.write base data = .ok next) (right : Memory) :
    ∃ other, right.write base data = .ok other := by
  rcases write_eq_ok_iff.mp written with ⟨inside, _⟩
  exact ⟨_, write_eq_ok_iff.mpr ⟨inside, rfl⟩⟩

end Memory

namespace Machine

def withMemory (machine : Machine) (memory : Memory) : Machine :=
  { machine with memory }

/-- The addresses whose bytes the next cycle reads. -/
inductive Reads (machine : Machine) : Nat → Prop where
  | high : Reads machine machine.pc.toNat
  | low : Reads machine (machine.pc.toNat + 1)
  | sprite {opcode : UInt16} {address : Nat} (fetched : machine.fetch = .ok opcode)
      (family : (Fields.ofOpcode opcode.toNat).family = 0xD)
      (above : machine.index.toNat ≤ address)
      (below : address < machine.index.toNat + (Fields.ofOpcode opcode.toNat).n) :
      Reads machine address
  | registers {opcode : UInt16} {address : Nat} (fetched : machine.fetch = .ok opcode)
      (family : (Fields.ofOpcode opcode.toNat).family = 0xF)
      (low : (Fields.ofOpcode opcode.toNat).nn = 0x65)
      (above : machine.index.toNat ≤ address)
      (below : address ≤ machine.index.toNat + (Fields.ofOpcode opcode.toNat).x) :
      Reads machine address

variable {machine next : Machine} {memory : Memory} {input : Input} {byte : UInt8}
  {instruction : Instruction} {opcode : UInt16}

theorem fetch_withMemory (agree : memory.AgreeOn machine.memory machine.pc.toNat 2) :
    (machine.withMemory memory).fetch = machine.fetch := by
  have same : memory.read machine.pc.toNat 2 = machine.memory.read machine.pc.toNat 2 :=
    agree.read_eq
  rw [fetch, fetch, withMemory, same]

/-- The bytes that an instruction reads are among those that its cycle reads. -/
theorem reads_of_readLength? (fetched : machine.fetch = .ok opcode)
    (encoded : Instruction.Encodes opcode.toNat (Fields.ofOpcode opcode.toNat) instruction)
    {length address : Nat} (reading : instruction.readLength? = some length)
    (above : machine.index.toNat ≤ address) (below : address < machine.index.toNat + length) :
    machine.Reads address := by
  cases encoded with
  | draw family =>
      cases reading
      exact .sprite fetched family above below
  | loadRegisters family low =>
      cases reading
      exact .registers fetched family low above (by omega)
  | _ => cases reading

/-- An instruction that is performed with one memory is performed with every other that holds the
same bytes where the instruction reads, and it leaves the same machine apart from memory. -/
theorem Performs.exists_withMemory (performs : machine.Performs input byte instruction next)
    (agree : ∀ length, instruction.readLength? = some length →
      memory.AgreeOn machine.memory machine.index.toNat length) :
    ∃ stored, (machine.withMemory memory).Performs input byte instruction
      (next.withMemory stored) := by
  cases performs with
  | draw found => exact ⟨memory, .draw ((agree _ rfl).read_eq.trans found)⟩
  | storeDecimal written =>
      rcases Memory.exists_write written memory with ⟨stored, storedToo⟩
      exact ⟨stored, .storeDecimal storedToo⟩
  | storeRegisters written =>
      rcases Memory.exists_write written memory with ⟨stored, storedToo⟩
      exact ⟨stored, .storeRegisters storedToo⟩
  | loadRegisters found => exact ⟨memory, .loadRegisters ((agree _ rfl).read_eq.trans found)⟩
  | returnFromCall popped => exact ⟨memory, .returnFromCall popped⟩
  | call pushed => exact ⟨memory, .call pushed⟩
  | skipIf tested => exact ⟨memory, .skipIf tested⟩
  | awaitNoKey quiet => exact ⟨memory, .awaitNoKey quiet⟩
  | awaitKey reported => exact ⟨memory, .awaitKey reported⟩
  | _ => exact ⟨memory, by constructor⟩

/-- Whether an opcode faults does not depend on what memory holds. -/
theorem Raises.withMemory {opcode : Int} {fields : Fields} {fault : Fault}
    (raises : machine.Raises input opcode fields fault) (memory : Memory) :
    (machine.withMemory memory).Raises input opcode fields fault := by
  cases raises with
  | invalidOpcode unassigned => exact .invalidOpcode unassigned
  | stackUnderflow exact empty => exact .stackUnderflow exact empty
  | stackOverflow family full => exact .stackOverflow family full
  | memoryAccess accesses beyond => exact .memoryAccess accesses beyond
  | askedKey family low absent => exact .askedKey family low absent
  | reportedKey family low reported absent => exact .reportedKey family low reported absent

end Machine

namespace System

def withMemory (system : System) (memory : Memory) : System :=
  { system with machine := system.machine.withMemory memory }

variable {system next : System} {memory : Memory} {stimulus : Stimulus} {cause : Fault}

theorem supply_clearDirty_withMemory (system : System) (memory : Memory)
    (instruction : Instruction) :
    (system.withMemory memory).clearDirty.supply instruction =
      (system.clearDirty.supply instruction).withMemory memory := by
  cases instruction <;> rfl

theorem tickIf_withMemory (system : System) (memory : Memory) (tick : Bool) :
    (system.withMemory memory).tickIf tick = (system.tickIf tick).withMemory memory := by
  cases tick <;> rfl

theorem stored?_withMemory
    (fetched : (system.withMemory memory).machine.fetch = system.machine.fetch) (address : Nat) :
    (system.withMemory memory).stored? address = system.stored? address := by
  have same : (system.withMemory memory).machine.stored? address =
      system.machine.stored? address := by
    funext instruction
    cases instruction <;> rfl
  rw [stored?, stored?, pending?, pending?, fetched, same]

theorem cycle_withMemory_of_error
    (fetched : (system.withMemory memory).machine.fetch = system.machine.fetch)
    (faulted : system.cycle stimulus = .error cause) :
    (system.withMemory memory).cycle stimulus = .error cause := by
  rcases fetching : system.machine.fetch with unfetched | opcode
  · rw [cycle_of_fetch_error fetching] at faulted
    rw [cycle_of_fetch_error (fetched.trans fetching), faulted]
  · rw [cycle_of_fetch fetching, Outcome.map_eq_error_iff, execute_eq_error_iff] at faulted
    rw [cycle_of_fetch (fetched.trans fetching), Outcome.map_eq_error_iff, execute_eq_error_iff]
    exact faulted.withMemory memory

theorem exists_cycle_withMemory
    (alike : ∀ address, system.machine.Reads address →
      memory.byte address = system.machine.memory.byte address)
    (fetched : (system.withMemory memory).machine.fetch = system.machine.fetch)
    (completed : system.cycle stimulus = .ok next) :
    ∃ stored, (system.withMemory memory).cycle stimulus = .ok (next.withMemory stored) := by
  rcases exists_performs_of_cycle completed with
    ⟨opcode, instruction, performed, fetching, encoded, performs, rfl⟩
  rcases exists_key_supply system.clearDirty instruction with ⟨key, supplied⟩
  have agree : ∀ length, instruction.readLength? = some length →
      memory.AgreeOn (system.clearDirty.supply instruction).machine.memory
        (system.clearDirty.supply instruction).machine.index.toNat length := by
    rw [supplied]
    intro length reading address above below
    exact alike address (Machine.reads_of_readLength? fetching encoded reading above below)
  rcases performs.exists_withMemory agree with ⟨stored, performsToo⟩
  have supplying := supply_clearDirty_withMemory system memory instruction
  have performsThere : ((system.withMemory memory).clearDirty.supply instruction).machine.Performs
      stimulus.input (system.withMemory memory).byte instruction (performed.withMemory stored) := by
    rw [supplying]
    exact performsToo
  refine ⟨stored, ?_⟩
  rw [cycle_of_performs (fetched.trans fetching) encoded performsThere, supplying,
    ← tickIf_withMemory]
  rfl

/-- A cycle of a system with other bytes in memory, but none of them where the cycle reads, faults
alike or completes alike. In the end the two systems differ in memory only, and there at the
addresses where they differed before and the cycle has stored nothing. -/
theorem cycle_depends_only_on_reads
    (alike : ∀ address, system.machine.Reads address →
      memory.byte address = system.machine.memory.byte address) (stimulus : Stimulus) :
    (∃ cause, system.cycle stimulus = .error cause ∧
      (system.withMemory memory).cycle stimulus = .error cause) ∨
    ∃ next stored, system.cycle stimulus = .ok next ∧
      (system.withMemory memory).cycle stimulus = .ok (next.withMemory stored) ∧
      ∀ address, stored.byte address ≠ next.machine.memory.byte address ↔
        memory.byte address ≠ system.machine.memory.byte address ∧
          system.stored? address = none := by
  have agree : memory.AgreeOn system.machine.memory system.machine.pc.toNat 2 := by
    intro address above below
    obtain rfl | rfl : address = system.machine.pc.toNat ∨
        address = system.machine.pc.toNat + 1 := by omega
    · exact alike _ .high
    · exact alike _ .low
  have fetched : (system.withMemory memory).machine.fetch = system.machine.fetch :=
    Machine.fetch_withMemory agree
  rcases completed : system.cycle stimulus with cause | next
  · exact .inl ⟨cause, rfl, cycle_withMemory_of_error fetched completed⟩
  · rcases exists_cycle_withMemory alike fetched completed with ⟨stored, completedToo⟩
    refine .inr ⟨next, stored, rfl, completedToo, ?_⟩
    intro address
    have left := byte_of_cycle completed address
    have right := byte_of_cycle completedToo address
    rw [stored?_withMemory fetched] at right
    rw [left]
    change stored.byte address = _ at right
    rw [right]
    change (system.stored? address).getD (memory.byte address) ≠ _ ↔ _
    rcases system.stored? address with _ | byte <;> simp

/-- A program that draws one row, with other bytes in memory right behind the row. -/
theorem drawingOneRow_completes_alike :
    ∃ machine, Machine.boot ⟨0, 7⟩ [0xD0, 0x01] = .ok machine ∧
      let system : System := ⟨{ machine with index := 0x300 }, .generator⟩
      let memory : Memory := ⟨overlay machine.memory.bytes 0x301 [0xFF]⟩
      (∀ address, system.machine.Reads address →
        memory.byte address = machine.memory.byte address) ∧
      ∃ next stored, system.cycle ⟨true, .none⟩ = .ok next ∧
        (system.withMemory memory).cycle ⟨true, .none⟩ = .ok (next.withMemory stored) ∧
        stored.byte 0x301 ≠ next.machine.memory.byte 0x301 := by
  have boots : ∃ machine, Machine.boot ⟨0, 7⟩ [0xD0, 0x01] = .ok machine := ⟨_, rfl⟩
  rcases boots with ⟨machine, booted⟩
  refine ⟨machine, booted, ?_⟩
  intro system memory
  have computed : system.machine.fetch = .ok 0xD001 ∧ machine.pc = 0x200 ∧
      (system.run [⟨true, .none⟩]).2 = none ∧ machine.memory.byte 0x301 = 0 ∧
      system.stored? 0x301 = none := by
    cases booted
    decide +kernel
  rcases computed with ⟨fetched, pc_eq, finished, before, unstored⟩
  have bytes := Memory.byte_overlay machine.memory 0x301 [0xFF] (by decide)
  have alike : ∀ address, system.machine.Reads address →
      memory.byte address = machine.memory.byte address := by
    intro address reads
    have below : ¬0x301 ≤ address := by
      cases reads with
      | high => simp [system, pc_eq]
      | low => simp [system, pc_eq]
      | sprite refetched family above below =>
          obtain rfl := Except.ok.inj (fetched.symm.trans refetched)
          exact Nat.not_le_of_lt below
      | registers refetched family low above below =>
          obtain rfl := Except.ok.inj (fetched.symm.trans refetched)
          exact absurd family (by decide)
    exact (bytes address).trans (if_neg below)
  refine ⟨alike, ?_⟩
  rcases cycle_depends_only_on_reads alike ⟨true, .none⟩ with
    ⟨cause, faulted, _⟩ | ⟨next, stored, both⟩
  · rw [run_cons_of_error faulted] at finished
    exact absurd finished (Option.some_ne_none cause)
  · refine ⟨next, stored, both.1, both.2.1, (both.2.2 0x301).mpr ⟨?_, unstored⟩⟩
    change memory.byte 0x301 ≠ machine.memory.byte 0x301
    rw [bytes 0x301, before]
    decide

end System

end Chip8
