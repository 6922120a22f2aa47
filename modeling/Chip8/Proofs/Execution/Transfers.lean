import Chip8.Proofs.Execution.Stores

/-!
# Registers and memory

Two instructions copy a block of registers to memory and back, V0 up to a register, from the index
on. Each of them undoes the other. What has been stored can also be loaded later, as long as no
other instruction stores anything in between and the index is where it was. A block that does not
lie in memory as a whole is refused by both, and nothing is copied.
-/

namespace Chip8

/-- An opcode with the given fields stores bytes: `FX33` and `FX55`. -/
inductive Fields.Stores (fields : Fields) : Prop where
  | decimal (family : fields.family = 0xF) (low : fields.nn = 0x33)
  | registers (family : fields.family = 0xF) (low : fields.nn = 0x55)

namespace Instruction

/-- The opcode `FX55` that stores V0 up to a register. -/
def storeOpcode (last : Register) : Int :=
  0xF055 + 256 * last.val

/-- The opcode `FX65` that loads V0 up to a register. -/
def loadOpcode (last : Register) : Int :=
  0xF065 + 256 * last.val

theorem decode?_storeOpcode (last : Register) :
    decode? (storeOpcode last) = some (.storeRegisters last) := by
  revert last
  decide

theorem decode?_loadOpcode (last : Register) :
    decode? (loadOpcode last) = some (.loadRegisters last) := by
  revert last
  decide

theorem storeLength?_eq_none_of_encodes {opcode : Int} {fields : Fields}
    {instruction : Instruction} (encoded : Encodes opcode fields instruction)
    (unstored : ¬fields.Stores) : instruction.storeLength? = none := by
  cases encoded with
  | storeDecimal family low => exact absurd (.decimal family low) unstored
  | storeRegisters family low => exact absurd (.registers family low) unstored
  | _ => rfl

end Instruction

namespace RegisterFile

theorem get_fill_through (registers other : RegisterFile) (last register : Register) :
    (other.fill (registers.through last)).get register =
      if register ≤ last then registers.get register else other.get register := by
  rw [get_fill]
  split
  · rw [getElem?_through registers ‹_›, Option.getD_some]
  · rename_i above
    have beyond : (registers.through last).length ≤ register.val := by
      rw [length_through]
      exact Nat.lt_of_not_le above
    rw [List.getElem?_eq_none beyond, Option.getD_none]

theorem fill_through (registers : RegisterFile) (last : Register) :
    registers.fill (registers.through last) = registers := by
  ext register
  rw [get_fill_through, ite_self]

theorem through_fill (registers : RegisterFile) {values : List UInt8} {last : Register}
    (complete : values.length = last.val + 1) : (registers.fill values).through last = values := by
  apply List.ext_getElem?
  intro offset
  by_cases inside : offset < last.val + 1
  · let register : Register := ⟨offset, by omega⟩
    have below : register ≤ last := Nat.le_of_lt_succ inside
    refine (getElem?_through (registers.fill values) below).trans ?_
    have found : values[offset]? = some values[offset] := List.getElem?_eq_getElem (by omega)
    rw [get_fill, found, Option.getD_some]
  · rw [List.getElem?_eq_none (by rw [length_through]; omega), List.getElem?_eq_none (by omega)]

theorem get_fill_slice (registers : RegisterFile) (memory : Memory) (start : Nat)
    (last register : Register) :
    (registers.fill (memory.slice start (last + 1))).get register =
      if register ≤ last then memory.byte (start + register) else registers.get register := by
  have below_iff : register.val < last.val + 1 ↔ register ≤ last := Nat.lt_succ_iff
  simp only [get_fill, Memory.getElem?_slice, below_iff]
  split <;> rfl

end RegisterFile

namespace System

open Instruction

/-- An instruction that stores nothing has been performed with success: an opcode has been executed
for itself, or a cycle has executed the one at the program counter. -/
inductive StorelessStep (system next : System) : Prop where
  | execute (opcode : Int) (input : Input) (storeless : ¬(Fields.ofOpcode opcode).Stores)
      (executed : system.execute opcode input = .ok next)
  | cycle (opcode : UInt16) (stimulus : Stimulus)
      (fetched : system.machine.fetch = .ok opcode)
      (storeless : ¬(Fields.ofOpcode opcode.toNat).Stores)
      (completed : system.cycle stimulus = .ok next)

variable {system next stored later : System} {last : Register} {input : Input}

theorem memory_of_execute_storeless {opcode : Int} (storeless : ¬(Fields.ofOpcode opcode).Stores)
    (executed : system.execute opcode input = .ok next) :
    next.machine.memory = system.machine.memory := by
  rcases execute_eq_ok_iff.mp executed with ⟨instruction, encoded, performing⟩
  rcases perform_eq_ok_iff.mp performing with ⟨machine, performs, rfl⟩
  rcases exists_key_supply system instruction with ⟨key, supplied⟩
  rw [supplied] at performs
  exact performs.memory_eq (storeLength?_eq_none_of_encodes encoded storeless)

theorem StorelessStep.memory_eq (step : system.StorelessStep next) :
    next.machine.memory = system.machine.memory := by
  cases step with
  | execute opcode input storeless executed =>
      exact memory_of_execute_storeless storeless executed
  | cycle opcode stimulus fetched storeless completed =>
      rw [cycle_of_fetch fetched, Outcome.map_eq_ok_iff] at completed
      rcases completed with ⟨performed, executed, rfl⟩
      have kept := memory_of_execute_storeless storeless executed
      exact (tickIf_memory performed stimulus.tick).trans kept

theorem memory_of_storelessSteps (steps : Relation.ReflTransGen StorelessStep system later) :
    later.machine.memory = system.machine.memory := by
  induction steps with
  | refl => rfl
  | tail _ step ih => exact step.memory_eq.trans ih

/-- The system with another memory and the program counter moved on. -/
def storing (system : System) (memory : Memory) (distance : UInt16) : System :=
  { system with machine := { system.machine with memory }.advance distance }

/-- The system with other registers and the program counter moved on. -/
def loading (system : System) (registers : RegisterFile) (distance : UInt16) : System :=
  { system with machine := { system.machine with registers }.advance distance }

theorem loading_storing (system : System) (memory : Memory) (distance further : UInt16) :
    (system.storing memory distance).loading system.machine.registers further =
      system.storing memory (distance + further) := by
  simp only [loading, storing, Machine.advance, UInt16.add_assoc]

theorem storing_loading (system : System) (registers : RegisterFile) (distance further : UInt16) :
    (system.loading registers distance).storing system.machine.memory further =
      system.loading registers (distance + further) := by
  simp only [loading, storing, Machine.advance, UInt16.add_assoc]

theorem execute_storeOpcode_eq_ok_iff :
    system.execute (storeOpcode last) input = .ok next ↔
      ∃ memory, system.machine.memory.write system.machine.index.toNat
          (system.machine.registers.through last) = .ok memory ∧
        system.storing memory 2 = next := by
  rw [execute, decode?_storeOpcode, ← Outcome.map_eq_ok_iff]
  simp only [perform, supply, Machine.perform_storeRegisters, Machine.storeAtIndex]
  rcases system.machine.memory.write system.machine.index.toNat
    (system.machine.registers.through last) with fault | memory <;> rfl

theorem execute_loadOpcode (system : System) (input : Input)
    (inside : system.machine.index.toNat + (last.val + 1) ≤ 4096) :
    system.execute (loadOpcode last) input =
      .ok (system.loading (system.machine.registers.fill
        (system.machine.memory.slice system.machine.index.toNat (last + 1))) 2) := by
  rw [execute, decode?_loadOpcode]
  simp only [perform, supply, Machine.perform_loadRegisters, Memory.read_of_inside inside]
  rfl

/-- Registers that have been stored are loaded wherever the memory and the index are those that the
store has left. -/
theorem execute_loadOpcode_of_stored
    (written : system.machine.memory.write system.machine.index.toNat
      (system.machine.registers.through last) = .ok later.machine.memory)
    (index_eq : later.machine.index = system.machine.index) (input : Input) :
    later.execute (loadOpcode last) input =
      .ok (later.loading (later.machine.registers.fill
        (system.machine.registers.through last)) 2) := by
  have inside := Memory.inside_of_write written
  have found := Memory.slice_of_write written
  rw [RegisterFile.length_through, ← index_eq] at inside found
  rw [execute_loadOpcode later input inside, found]

theorem exists_store_then_load (system : System) (input inputAgain : Input)
    (inside : system.machine.index.toNat + (last.val + 1) ≤ 4096) :
    ∃ memory, system.execute (storeOpcode last) input = .ok (system.storing memory 2) ∧
      (system.storing memory 2).execute (loadOpcode last) inputAgain =
        .ok (system.storing memory 4) ∧
      (∀ register ≤ last, memory.byte (system.machine.index.toNat + register) =
        system.machine.registers.get register) ∧
      ∀ address, address < system.machine.index.toNat ∨
          system.machine.index.toNat + last < address →
        memory.byte address = system.machine.memory.byte address := by
  rw [← RegisterFile.length_through system.machine.registers] at inside
  rcases system.machine.memory.exists_write_of_inside inside with ⟨memory, written⟩
  refine ⟨memory, execute_storeOpcode_eq_ok_iff.mpr ⟨memory, written, rfl⟩, ?_, ?_, ?_⟩
  · have index_eq : (system.storing memory 2).machine.index = system.machine.index := rfl
    have same : (system.storing memory 2).machine.registers.fill
        (system.machine.registers.through last) = system.machine.registers :=
      system.machine.registers.fill_through last
    rw [execute_loadOpcode_of_stored written index_eq inputAgain, same, loading_storing]
    rfl
  · intro register below
    rw [Memory.byte_write written, if_pos (Nat.le_add_right ..), Nat.add_sub_cancel_left,
      RegisterFile.getElem?_through _ below, Option.getD_some]
  · intro address outside
    apply Memory.byte_of_write written
    rw [RegisterFile.length_through]
    omega

theorem exists_load_then_store (system : System) (input inputAgain : Input)
    (inside : system.machine.index.toNat + (last.val + 1) ≤ 4096) :
    ∃ registers, system.execute (loadOpcode last) input = .ok (system.loading registers 2) ∧
      (system.loading registers 2).execute (storeOpcode last) inputAgain =
        .ok (system.loading registers 4) ∧
      ∀ register, registers.get register =
        if register ≤ last then
          system.machine.memory.byte (system.machine.index.toNat + register)
        else system.machine.registers.get register := by
  refine ⟨_, execute_loadOpcode system input inside, ?_,
    system.machine.registers.get_fill_slice system.machine.memory _ last⟩
  apply execute_storeOpcode_eq_ok_iff.mpr
  refine ⟨system.machine.memory, ?_, storing_loading system _ 2 2⟩
  -- The registers that are stored again hold what memory has there.
  have values := system.machine.registers.through_fill
    (system.machine.memory.length_slice system.machine.index.toNat (last + 1))
  exact (congrArg _ values).trans (Memory.write_slice inside)

/-- What has been stored is loaded after any instructions that store nothing. -/
theorem exists_load_after_storelessSteps
    (executed : system.execute (storeOpcode last) input = .ok stored)
    (steps : Relation.ReflTransGen StorelessStep stored later)
    (index_eq : later.machine.index = system.machine.index) (inputAgain : Input) :
    ∃ registers, later.execute (loadOpcode last) inputAgain = .ok (later.loading registers 2) ∧
      ∀ register, registers.get register =
        if register ≤ last then system.machine.registers.get register
        else later.machine.registers.get register := by
  rcases execute_storeOpcode_eq_ok_iff.mp executed with ⟨memory, written, rfl⟩
  have kept := memory_of_storelessSteps steps
  refine ⟨_, execute_loadOpcode_of_stored (kept ▸ written) index_eq inputAgain, ?_⟩
  exact system.machine.registers.get_fill_through later.machine.registers last

/-- A block that does not lie in memory is neither stored nor loaded. -/
theorem transfers_refused (system : System)
    (beyond : 4096 < system.machine.index.toNat + (last.val + 1)) :
    let refused := Fault.memoryAccess system.machine.index.toNat (last.val + 1 : Nat)
    (∀ input, system.execute (storeOpcode last) input = .error refused ∧
      system.execute (loadOpcode last) input = .error refused) ∧
    ∀ stimulus rest, system.pending? = some (.storeRegisters last) ∨
        system.pending? = some (.loadRegisters last) →
      system.run (stimulus :: rest) = (system, some refused) := by
  intro refused
  constructor
  · intro input
    rw [execute, decode?_storeOpcode, execute, decode?_loadOpcode]
    exact ⟨perform_eq_error_iff.mpr (.access rfl beyond),
      perform_eq_error_iff.mpr (.access rfl beyond)⟩
  · rintro stimulus rest (pending | pending)
    · exact run_cons_of_error (cycle_of_access_beyond pending rfl beyond stimulus) rest
    · exact run_cons_of_error (cycle_of_access_beyond pending rfl beyond stimulus) rest

/-- Storing V0 up to a register and loading them again puts the registers into memory and changes
nothing else; loading them first and storing them again puts the bytes of memory into the registers
and changes nothing else, apart from the program counter. What has been stored is also loaded after
any instructions that succeed and store nothing, with the index where it was. A block that does not
lie in memory as a whole is neither stored nor loaded. -/
theorem transfers_are_inverse (system : System) (last : Register) :
    let machine := system.machine
    let start := machine.index.toNat
    (start + (last.val + 1) ≤ 4096 → ∀ input inputAgain,
      (∃ memory, system.execute (storeOpcode last) input = .ok (system.storing memory 2) ∧
        (system.storing memory 2).execute (loadOpcode last) inputAgain =
          .ok (system.storing memory 4) ∧
        (∀ register ≤ last, memory.byte (start + register) = machine.registers.get register) ∧
        ∀ address, address < start ∨ start + last < address →
          memory.byte address = machine.memory.byte address) ∧
      ∃ registers, system.execute (loadOpcode last) input = .ok (system.loading registers 2) ∧
        (system.loading registers 2).execute (storeOpcode last) inputAgain =
          .ok (system.loading registers 4) ∧
        ∀ register, registers.get register =
          if register ≤ last then machine.memory.byte (start + register)
          else machine.registers.get register) ∧
    (∀ input inputAgain stored later, system.execute (storeOpcode last) input = .ok stored →
      Relation.ReflTransGen StorelessStep stored later → later.machine.index = machine.index →
        ∃ registers,
          later.execute (loadOpcode last) inputAgain = .ok (later.loading registers 2) ∧
          ∀ register, registers.get register =
            if register ≤ last then machine.registers.get register
            else later.machine.registers.get register) ∧
    (4096 < start + (last.val + 1) →
      let refused := Fault.memoryAccess start (last.val + 1 : Nat)
      (∀ input, system.execute (storeOpcode last) input = .error refused ∧
        system.execute (loadOpcode last) input = .error refused) ∧
      ∀ stimulus rest, system.pending? = some (.storeRegisters last) ∨
          system.pending? = some (.loadRegisters last) →
        system.run (stimulus :: rest) = (system, some refused)) := by
  intro machine start
  refine ⟨?_, ?_, system.transfers_refused⟩
  · intro inside input inputAgain
    exact ⟨exists_store_then_load system input inputAgain inside,
      exists_load_then_store system input inputAgain inside⟩
  · intro input inputAgain stored later executed steps index_eq
    exact exists_load_after_storelessSteps executed steps index_eq inputAgain

/-- Three registers are stored and come back, at once and after one of them has been overwritten;
close to the end of memory they are not stored. -/
theorem threeRegisters_transfers :
    ∃ machine, Machine.boot ⟨0, 7⟩ [0xF2, 0x55] = .ok machine ∧
      let system : System :=
        ⟨{ machine with index := 0x300, registers := machine.registers.set 2 9 }, .generator⟩
      let atEnd : System := ⟨{ machine with index := 0xFFE }, .generator⟩
      (∃ memory registers,
        system.execute (storeOpcode 2) .none = .ok (system.storing memory 2) ∧
          (system.storing memory 2).execute (loadOpcode 2) .none =
            .ok (system.storing memory 4) ∧
          memory.byte 0x302 = 9 ∧
          system.execute (loadOpcode 2) .none = .ok (system.loading registers 2) ∧
          registers.get 2 = machine.memory.byte 0x302) ∧
      (∃ stored later registers, system.execute (storeOpcode 2) .none = .ok stored ∧
        Relation.ReflTransGen StorelessStep stored later ∧
        later.machine.registers.get 2 = 1 ∧
        later.execute (loadOpcode 2) .none = .ok (later.loading registers 2) ∧
        registers.get 2 = 9) ∧
      atEnd.run [⟨false, .none⟩] = (atEnd, some (.memoryAccess 0xFFE 3)) := by
  have boots : ∃ machine, Machine.boot ⟨0, 7⟩ [0xF2, 0x55] = .ok machine := ⟨_, rfl⟩
  rcases boots with ⟨machine, booted⟩
  refine ⟨machine, booted, ?_⟩
  intro system atEnd
  have pending : atEnd.pending? = some (.storeRegisters 2) := by
    cases booted
    decide +kernel
  have inside : 0x300 + 3 ≤ 4096 := by decide
  have beyond : 4096 < 0xFFE + 3 := by decide
  rcases transfers_are_inverse system 2 with ⟨transferred, delayed, _⟩
  rcases transferred inside .none .none with
    ⟨⟨memory, executed, reloaded, held, _⟩, registers, loaded, _, registers_eq⟩
  have value : (machine.registers.set 2 9).get 2 = 9 := machine.registers.get_set _ _ _
  refine ⟨⟨memory, registers, executed, reloaded, ?_, loaded, registers_eq 2⟩, ?_, ?_⟩
  · exact (held 2 (Nat.le_refl 2)).trans value
  · have overwritten : ∃ later, (system.storing memory 2).execute 0x6201 .none = .ok later ∧
        later.machine.registers.get 2 = 1 ∧ later.machine.index = 0x300 :=
      ⟨_, rfl, RegisterFile.get_set _ _ _ _, rfl⟩
    rcases overwritten with ⟨later, stepped, changed, index_eq⟩
    have storeless : ¬(Fields.ofOpcode 0x6201).Stores := by
      intro stores
      cases stores with
      | decimal family | registers family => exact absurd family (by decide)
    have steps : Relation.ReflTransGen StorelessStep (system.storing memory 2) later :=
      .single (.execute 0x6201 .none storeless stepped)
    rcases delayed .none .none _ later executed steps index_eq with
      ⟨back, loadedAgain, back_eq⟩
    exact ⟨_, later, back, executed, steps, changed, loadedAgain, (back_eq 2).trans value⟩
  · rcases transfers_are_inverse atEnd 2 with ⟨_, _, refused⟩
    exact (refused beyond).2 ⟨false, .none⟩ [] (.inl pending)

end System

end Chip8
