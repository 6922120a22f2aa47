import Chip8.Proofs.Execution.Effects

/-!
# Which opcodes fault

`Machine.Fails` says when performing an instruction faults, and with which fault. Read through the
opcode table it becomes `Machine.Raises`, which lists the faults of an opcode by its fields. The
main statement is that executing an opcode raises the listed faults and no others, and ends in a
next system whenever none is listed.

The register file checks the index of every block of registers that is stored or loaded. The check
never fails here: an operand of four bits always names a register.
-/

namespace Chip8

namespace Instruction

/-- The number of bytes of memory that an instruction reads or writes from the index on. -/
def accessLength? : Instruction → Option Nat
  | .draw _ _ height => some height
  | .storeDecimal _ => some 3
  | .storeRegisters last | .loadRegisters last => some (last + 1)
  | _ => none

end Instruction

namespace Machine

/-- Performing an instruction ends in a fault. -/
inductive Fails (machine : Machine) (input : Input) : Instruction → Fault → Prop where
  | returnFromCall (empty : machine.stack.pointer = 0) :
      Fails machine input .returnFromCall .stackUnderflow
  | call {target : UInt16} (full : machine.stack.pointer = machine.stack.capacity) :
      Fails machine input (.call target) (.stackOverflow machine.stack.capacity)
  | keyDown {register : Register} (absent : 15 < (machine.registers.get register).toNat) :
      Fails machine input (.skipIf (.keyDown register))
        (.invalidKey (machine.registers.get register).toNat)
  | keyUp {register : Register} (absent : 15 < (machine.registers.get register).toNat) :
      Fails machine input (.skipIf (.keyUp register))
        (.invalidKey (machine.registers.get register).toNat)
  | awaitKey {target : Register} {key : Int} (reported : input.reported = some key)
      (absent : key < 0 ∨ 15 < key) :
      Fails machine input (.awaitKey target) (.invalidKey key)
  | access {instruction : Instruction} {length : Nat}
      (accesses : instruction.accessLength? = some length)
      (beyond : 4096 < machine.index.toNat + length) :
      Fails machine input instruction (.memoryAccess machine.index.toNat length)

theorem read_eq_error_iff {machine : Machine} {length : Nat} {fault : Fault} :
    machine.memory.read machine.index.toNat length = .error fault ↔
      4096 < machine.index.toNat + length ∧
        fault = .memoryAccess machine.index.toNat length := by
  rw [Memory.read_eq_error_iff]
  apply and_congr_left
  intro _
  simp only [Memory.InRange]
  omega

theorem storeAtIndex_eq_error_iff {machine : Machine} {data : List UInt8} {fault : Fault} :
    machine.storeAtIndex data = .error fault ↔
      4096 < machine.index.toNat + data.length ∧
        fault = .memoryAccess machine.index.toNat data.length := by
  rw [storeAtIndex, Outcome.map_eq_error_iff, Memory.write_eq_error_iff]
  apply and_congr_left
  intro _
  simp only [Memory.InRange]
  omega

theorem ofInteger_toNat_eq_error_iff {value : UInt8} {fault : Fault} :
    Key.ofInteger value.toNat = .error fault ↔
      15 < value.toNat ∧ fault = .invalidKey value.toNat := by
  rw [Key.ofInteger_eq_error_iff]
  apply and_congr_left
  intro _
  omega

theorem perform_of_fails {machine : Machine} {input : Input} {instruction : Instruction}
    {fault : Fault} (fails : machine.Fails input instruction fault) (byte : UInt8) :
    machine.perform input byte instruction = .error fault := by
  cases fails with
  | returnFromCall empty =>
      simp [perform, ReturnStack.pop_eq_error_iff, empty]
  | call full => simp [perform, ReturnStack.push_eq_error_iff, full]
  | keyDown absent => simp [perform, Condition.test, ofInteger_toNat_eq_error_iff, absent]
  | keyUp absent => simp [perform, Condition.test, ofInteger_toNat_eq_error_iff, absent]
  | @awaitKey target key reported absent =>
      have refused : ¬(0 ≤ key ∧ key < 16) := by omega
      simp only [perform, reported]
      rw [Outcome.map_eq_error_iff, Key.ofInteger_eq_error_iff]
      exact ⟨refused, rfl⟩
  | access accesses beyond =>
      cases instruction with
      | draw column row height =>
          cases accesses
          rw [perform, Outcome.map_eq_error_iff, read_eq_error_iff]
          exact ⟨beyond, rfl⟩
      | storeDecimal source =>
          cases accesses
          rw [perform, Outcome.map_eq_error_iff, storeAtIndex_eq_error_iff]
          exact ⟨beyond, rfl⟩
      | storeRegisters last =>
          cases accesses
          rw [perform_storeRegisters, Outcome.map_eq_error_iff, storeAtIndex_eq_error_iff,
            RegisterFile.length_through]
          exact ⟨beyond, rfl⟩
      | loadRegisters last =>
          cases accesses
          rw [perform_loadRegisters, Outcome.map_eq_error_iff, read_eq_error_iff]
          exact ⟨beyond, rfl⟩
      | _ => cases accesses

theorem fails_of_perform {machine : Machine} {input : Input} {byte : UInt8}
    {instruction : Instruction} {fault : Fault}
    (failed : machine.perform input byte instruction = .error fault) :
    machine.Fails input instruction fault := by
  cases instruction with
  | returnFromCall =>
      simp only [perform, Outcome.map_eq_error_iff, ReturnStack.pop_eq_error_iff] at failed
      rcases failed with ⟨empty, rfl⟩
      exact .returnFromCall empty
  | call target =>
      simp only [perform, Outcome.map_eq_error_iff, ReturnStack.push_eq_error_iff] at failed
      rcases failed with ⟨full, rfl⟩
      exact .call full
  | skipIf condition =>
      simp only [perform, Outcome.map_eq_error_iff] at failed
      cases condition with
      | keyDown register =>
          simp only [Condition.test, Outcome.map_eq_error_iff,
            ofInteger_toNat_eq_error_iff] at failed
          rcases failed with ⟨absent, rfl⟩
          exact .keyDown absent
      | keyUp register =>
          simp only [Condition.test, Outcome.map_eq_error_iff,
            ofInteger_toNat_eq_error_iff] at failed
          rcases failed with ⟨absent, rfl⟩
          exact .keyUp absent
      | _ => simp [Condition.test] at failed
  | draw column row height =>
      simp only [perform, Outcome.map_eq_error_iff, read_eq_error_iff] at failed
      rcases failed with ⟨beyond, rfl⟩
      exact .access rfl beyond
  | awaitKey target =>
      simp only [perform] at failed
      rcases reported : input.reported with _ | key
      · simp [reported] at failed
      · simp only [reported, Outcome.map_eq_error_iff, Key.ofInteger_eq_error_iff] at failed
        rcases failed with ⟨refused, rfl⟩
        exact .awaitKey reported (by omega)
  | storeDecimal source =>
      simp only [perform, Outcome.map_eq_error_iff, storeAtIndex_eq_error_iff] at failed
      rcases failed with ⟨beyond, rfl⟩
      exact .access rfl beyond
  | storeRegisters last =>
      rw [perform_storeRegisters, Outcome.map_eq_error_iff, storeAtIndex_eq_error_iff,
        RegisterFile.length_through] at failed
      rcases failed with ⟨beyond, rfl⟩
      exact .access rfl beyond
  | loadRegisters last =>
      rw [perform_loadRegisters, Outcome.map_eq_error_iff, read_eq_error_iff] at failed
      rcases failed with ⟨beyond, rfl⟩
      exact .access rfl beyond
  | _ => simp [perform] at failed

theorem perform_eq_error_iff {machine : Machine} {input : Input} {byte : UInt8}
    {instruction : Instruction} {fault : Fault} :
    machine.perform input byte instruction = .error fault ↔
      machine.Fails input instruction fault :=
  ⟨fails_of_perform, fun fails => perform_of_fails fails byte⟩

/-- Opcodes with the given fields read or write so many bytes from the index on. -/
inductive Accesses (fields : Fields) : Nat → Prop where
  | draw (family : fields.family = 0xD) : Accesses fields fields.n
  | storeDecimal (family : fields.family = 0xF) (low : fields.nn = 0x33) : Accesses fields 3
  | registers (family : fields.family = 0xF) (low : fields.nn = 0x55 ∨ fields.nn = 0x65) :
      Accesses fields (fields.x + 1)

/-- The faults of an opcode with the given fields. -/
inductive Raises (machine : Machine) (input : Input) (opcode : Int) (fields : Fields) :
    Fault → Prop where
  | invalidOpcode (unassigned : Instruction.Unassigned opcode fields) :
      Raises machine input opcode fields (.invalidOpcode opcode (some machine.pc.toNat))
  | stackUnderflow (exact : opcode = 0x00EE) (empty : machine.stack.pointer = 0) :
      Raises machine input opcode fields .stackUnderflow
  | stackOverflow (family : fields.family = 0x2)
      (full : machine.stack.pointer = machine.stack.capacity) :
      Raises machine input opcode fields (.stackOverflow machine.stack.capacity)
  | memoryAccess {length : Nat} (accesses : Accesses fields length)
      (beyond : 4096 < machine.index.toNat + length) :
      Raises machine input opcode fields (.memoryAccess machine.index.toNat length)
  | askedKey (family : fields.family = 0xE) (low : fields.nn = 0x9E ∨ fields.nn = 0xA1)
      (absent : 15 < (machine.registers.get fields.x).toNat) :
      Raises machine input opcode fields (.invalidKey (machine.registers.get fields.x).toNat)
  | reportedKey {key : Int} (family : fields.family = 0xF) (low : fields.nn = 0x0A)
      (reported : input.reported = some key) (absent : key < 0 ∨ 15 < key) :
      Raises machine input opcode fields (.invalidKey key)

theorem raises_of_fails {machine : Machine} {input : Input} {opcode : Int} {fields : Fields}
    {instruction : Instruction} {fault : Fault}
    (encoded : Instruction.Encodes opcode fields instruction)
    (fails : machine.Fails input instruction fault) :
    machine.Raises input opcode fields fault := by
  cases fails with
  | returnFromCall empty =>
      cases encoded with
      | returnFromCall exact => exact .stackUnderflow exact empty
  | call full =>
      cases encoded with
      | call family => exact .stackOverflow family full
  | keyDown absent =>
      cases encoded with
      | skipIfKeyDown family low => exact .askedKey family (.inl low) absent
  | keyUp absent =>
      cases encoded with
      | skipIfKeyUp family low => exact .askedKey family (.inr low) absent
  | awaitKey reported absent =>
      cases encoded with
      | awaitKey family low => exact .reportedKey family low reported absent
  | access accesses beyond =>
      refine .memoryAccess ?_ beyond
      cases encoded with
      | draw family =>
          cases accesses
          exact .draw family
      | storeDecimal family low =>
          cases accesses
          exact .storeDecimal family low
      | storeRegisters family low =>
          cases accesses
          exact .registers family (.inl low)
      | loadRegisters family low =>
          cases accesses
          exact .registers family (.inr low)
      | _ => cases accesses

theorem unassigned_or_fails_of_raises {machine : Machine} {input : Input} {opcode : Int}
    {fields : Fields} {fault : Fault} (raises : machine.Raises input opcode fields fault) :
    (Instruction.Unassigned opcode fields ∧
        fault = .invalidOpcode opcode (some machine.pc.toNat)) ∨
      ∃ instruction, Instruction.Encodes opcode fields instruction ∧
        machine.Fails input instruction fault := by
  cases raises with
  | invalidOpcode unassigned => exact .inl ⟨unassigned, rfl⟩
  | stackUnderflow exact empty => exact .inr ⟨_, .returnFromCall exact, .returnFromCall empty⟩
  | stackOverflow family full => exact .inr ⟨_, .call family, .call full⟩
  | memoryAccess accesses beyond =>
      right
      cases accesses with
      | draw family => exact ⟨_, .draw family, .access rfl beyond⟩
      | storeDecimal family low => exact ⟨_, .storeDecimal family low, .access rfl beyond⟩
      | registers family low =>
          rcases low with store | load
          · exact ⟨_, .storeRegisters family store, .access rfl beyond⟩
          · exact ⟨_, .loadRegisters family load, .access rfl beyond⟩
  | askedKey family low absent =>
      rcases low with down | up
      · exact .inr ⟨_, .skipIfKeyDown family down, .keyDown absent⟩
      · exact .inr ⟨_, .skipIfKeyUp family up, .keyUp absent⟩
  | reportedKey family low reported absent =>
      exact .inr ⟨_, .awaitKey family low, .awaitKey reported absent⟩

end Machine

namespace System

/-- Sampling a random byte first does not change whether an instruction faults. -/
theorem perform_eq_error_iff {system : System} {input : Input} {instruction : Instruction}
    {fault : Fault} :
    system.perform input instruction = .error fault ↔
      system.machine.Fails input instruction fault := by
  simp only [perform, Outcome.map_eq_error_iff, Machine.perform_eq_error_iff]
  cases instruction with
  | random target mask =>
      constructor
      · intro fails
        cases fails with
        | access accesses beyond => cases accesses
      · intro fails
        cases fails with
        | access accesses beyond => cases accesses
  | _ => rfl

theorem execute_eq_error_iff {system : System} {opcode : Int} {input : Input} {fault : Fault} :
    system.execute opcode input = .error fault ↔
      system.machine.Raises input opcode (Fields.ofOpcode opcode) fault := by
  rw [execute]
  rcases decoded : Instruction.decode? opcode with _ | instruction
  · dsimp only
    constructor
    · intro failed
      cases failed
      exact .invalidOpcode (Instruction.decode?_eq_none_iff.mp decoded)
    · intro raises
      rcases Machine.unassigned_or_fails_of_raises raises with ⟨_, rfl⟩ | ⟨other, encoded, _⟩
      · rfl
      · rw [Instruction.decode?_eq_some_iff.mpr encoded] at decoded
        contradiction
  · dsimp only
    rw [perform_eq_error_iff]
    constructor
    · intro fails
      exact Machine.raises_of_fails (Instruction.decode?_eq_some_iff.mp decoded) fails
    · intro raises
      rcases Machine.unassigned_or_fails_of_raises raises with
        ⟨unassigned, _⟩ | ⟨other, encoded, fails⟩
      · rw [Instruction.decode?_eq_none_iff.mpr unassigned] at decoded
        contradiction
      · rw [Instruction.decode?_eq_some_iff.mpr encoded, Option.some.injEq] at decoded
        rwa [decoded] at fails

/-- Executing an opcode raises the faults that are listed for it and no others, and ends in a next
system whenever none is listed. The register file's own check never fails. -/
theorem execute_fails_iff_raises (system : System) (opcode : Int) (input : Input) :
    (∀ fault, system.execute opcode input = .error fault ↔
      system.machine.Raises input opcode (Fields.ofOpcode opcode) fault) ∧
    ((∃ next, system.execute opcode input = .ok next) ↔
      ∀ fault, ¬system.machine.Raises input opcode (Fields.ofOpcode opcode) fault) ∧
    ∀ index, system.execute opcode input ≠ .error (.registerIndex index) := by
  refine ⟨fun fault => execute_eq_error_iff, ?_, ?_⟩
  · rw [Outcome.exists_ok_iff]
    exact forall_congr' fun fault => not_congr execute_eq_error_iff
  · intro index failed
    cases execute_eq_error_iff.mp failed

end System

end Chip8
