import Chip8.Proofs.Instruction.Encoding
import Chip8.Proofs.Outcome
import Chip8.System

/-!
# What a completed step does

`Machine.Performs` has a rule for every instruction: what must have succeeded on the way, and the
machine that is left. A completed execution, and then a completed cycle, is taken apart into the
opcode, the row of the opcode table and the rule that was followed. Facts about steps are proved by
cases on the rules; facts about runs follow from `System.run_preserves`.
-/

namespace Chip8

namespace Machine

/-- Storing a block of registers never trips over the index of its last register. -/
theorem perform_storeRegisters (machine : Machine) (input : Input) (byte : UInt8)
    (last : Register) :
    machine.perform input byte (.storeRegisters last) =
      (machine.storeAtIndex (machine.registers.through last)).map (·.advance 2) := by
  simp only [perform, RegisterFile.throughIndex_val]
  rfl

/-- Loading a block of registers never trips over the number of values. -/
theorem perform_loadRegisters (machine : Machine) (input : Input) (byte : UInt8)
    (last : Register) :
    machine.perform input byte (.loadRegisters last) =
      (machine.memory.read machine.index.toNat (last.val + 1 : Nat)).map fun values =>
        { machine with registers := machine.registers.fill values }.advance 2 := by
  simp only [perform]
  rcases found : machine.memory.read machine.index.toNat (last.val + 1 : Nat) with fault | values
  · rfl
  · rw [Memory.read_eq_ok_iff] at found
    have enough : values.length ≤ 16 := by
      rw [← found.2, Memory.length_slice]
      omega
    show (machine.registers.load values >>= _) = _
    rw [RegisterFile.load_of_length_le enough]
    rfl

/-- Performing an instruction leaves a machine. -/
inductive Performs (machine : Machine) (input : Input) (byte : UInt8) :
    Instruction → Machine → Prop where
  | clearScreen :
      Performs machine input byte .clearScreen
        ({ machine with display := machine.display.clear }.advance 2)
  | returnFromCall {address : UInt16} {stack : ReturnStack}
      (popped : machine.stack.pop = .ok (address, stack)) :
      Performs machine input byte .returnFromCall { machine with stack, pc := address }
  | jump {target : UInt16} :
      Performs machine input byte (.jump target) { machine with pc := target }
  | call {target : UInt16} {stack : ReturnStack}
      (pushed : machine.stack.push (machine.pc + 2) = .ok stack) :
      Performs machine input byte (.call target) { machine with stack, pc := target }
  | skipIf {condition : Condition} {holds : Bool}
      (tested : condition.test machine input = .ok holds) :
      Performs machine input byte (.skipIf condition) (machine.skipIf holds)
  | setByte {target : Register} {value : UInt8} :
      Performs machine input byte (.setByte target value)
        ((machine.setRegister target value).advance 2)
  | addByte {target : Register} {value : UInt8} :
      Performs machine input byte (.addByte target value)
        ((machine.setRegister target (machine.registers.get target + value)).advance 2)
  | arithmetic {operation : Arithmetic} {target source : Register} :
      Performs machine input byte (.arithmetic operation target source)
        ((machine.combine operation target source).advance 2)
  | setIndex {address : UInt16} :
      Performs machine input byte (.setIndex address)
        ({ machine with index := address }.advance 2)
  | jumpFrom {base : UInt16} :
      Performs machine input byte (.jumpFrom base)
        { machine with
          pc := base + (machine.registers.get RegisterFile.firstRegister).toUInt16 }
  | random {target : Register} {mask : UInt8} :
      Performs machine input byte (.random target mask)
        ((machine.setRegister target (byte &&& mask)).advance 2)
  | draw {column row : Register} {height : Fin 16} {sprite : List UInt8}
      (found : machine.memory.read machine.index.toNat height.val = .ok sprite) :
      Performs machine input byte (.draw column row height)
        ({ machine with
          display := machine.display.toggle sprite (machine.registers.get column).toNat
            (machine.registers.get row).toNat
          registers := machine.registers.setFlag
            (machine.display.collides sprite (machine.registers.get column).toNat
              (machine.registers.get row).toNat).toUInt8 }.advance 2)
  | readDelay {target : Register} :
      Performs machine input byte (.readDelay target)
        ((machine.setRegister target machine.delay.value).advance 2)
  | awaitNoKey {target : Register} (quiet : input.reported = none) :
      Performs machine input byte (.awaitKey target) machine
  | awaitKey {target : Register} {key : Key} (reported : input.reported = some (key.val : Int)) :
      Performs machine input byte (.awaitKey target)
        ((machine.setRegister target (UInt8.ofNat key.val)).advance 2)
  | setDelay {source : Register} :
      Performs machine input byte (.setDelay source)
        ({ machine with delay := ⟨machine.registers.get source⟩ }.advance 2)
  | setSound {source : Register} :
      Performs machine input byte (.setSound source)
        ({ machine with sound := ⟨machine.registers.get source⟩ }.advance 2)
  | addToIndex {source : Register} :
      Performs machine input byte (.addToIndex source)
        ({ machine with
          index := machine.index + (machine.registers.get source).toUInt16 }.advance 2)
  | pointAtGlyph {source : Register} :
      Performs machine input byte (.pointAtGlyph source)
        ({ machine with
          index := UInt16.ofInt
            (Memory.glyphAddress (machine.registers.get source).toNat) }.advance 2)
  | storeDecimal {source : Register} {memory : Memory}
      (written : machine.memory.write machine.index.toNat
        (decimalDigits (machine.registers.get source)) = .ok memory) :
      Performs machine input byte (.storeDecimal source) ({ machine with memory }.advance 2)
  | storeRegisters {last : Register} {memory : Memory}
      (written : machine.memory.write machine.index.toNat
        (machine.registers.through last) = .ok memory) :
      Performs machine input byte (.storeRegisters last) ({ machine with memory }.advance 2)
  | loadRegisters {last : Register} {values : List UInt8}
      (found : machine.memory.read machine.index.toNat (last.val + 1 : Nat) = .ok values) :
      Performs machine input byte (.loadRegisters last)
        ({ machine with registers := machine.registers.fill values }.advance 2)

theorem storeAtIndex_eq_ok_iff {machine next : Machine} {data : List UInt8} :
    machine.storeAtIndex data = .ok next ↔
      ∃ memory, machine.memory.write machine.index.toNat data = .ok memory ∧
        { machine with memory } = next := by
  rw [storeAtIndex, Outcome.map_eq_ok_iff]

theorem performs_of_perform {machine next : Machine} {input : Input} {byte : UInt8}
    {instruction : Instruction} (performed : machine.perform input byte instruction = .ok next) :
    machine.Performs input byte instruction next := by
  cases instruction with
  | returnFromCall =>
      rw [perform, Outcome.map_eq_ok_iff] at performed
      rcases performed with ⟨⟨address, stack⟩, popped, rfl⟩
      exact .returnFromCall popped
  | call target =>
      rw [perform, Outcome.map_eq_ok_iff] at performed
      rcases performed with ⟨stack, pushed, rfl⟩
      exact .call pushed
  | skipIf condition =>
      rw [perform, Outcome.map_eq_ok_iff] at performed
      rcases performed with ⟨holds, tested, rfl⟩
      exact .skipIf tested
  | draw column row height =>
      rw [perform, Outcome.map_eq_ok_iff] at performed
      rcases performed with ⟨sprite, found, rfl⟩
      exact .draw found
  | awaitKey target =>
      simp only [perform] at performed
      rcases reported : input.reported with _ | number
      · simp only [reported, Except.ok.injEq] at performed
        subst performed
        exact .awaitNoKey reported
      · simp only [reported, Outcome.map_eq_ok_iff, Key.ofInteger_eq_ok_iff] at performed
        rcases performed with ⟨key, rfl, rfl⟩
        exact .awaitKey reported
  | storeDecimal source =>
      rw [perform, Outcome.map_eq_ok_iff] at performed
      rcases performed with ⟨stored, done, rfl⟩
      rcases storeAtIndex_eq_ok_iff.mp done with ⟨memory, written, rfl⟩
      exact .storeDecimal written
  | storeRegisters last =>
      rw [perform_storeRegisters, Outcome.map_eq_ok_iff] at performed
      rcases performed with ⟨stored, done, rfl⟩
      rcases storeAtIndex_eq_ok_iff.mp done with ⟨memory, written, rfl⟩
      exact .storeRegisters written
  | loadRegisters last =>
      rw [perform_loadRegisters, Outcome.map_eq_ok_iff] at performed
      rcases performed with ⟨values, found, rfl⟩
      exact .loadRegisters found
  | _ =>
      cases performed
      constructor

theorem perform_of_performs {machine next : Machine} {input : Input} {byte : UInt8}
    {instruction : Instruction} (performed : machine.Performs input byte instruction next) :
    machine.perform input byte instruction = .ok next := by
  cases performed with
  | returnFromCall popped => simp only [perform, popped]; rfl
  | call pushed => simp only [perform, pushed]; rfl
  | skipIf tested => simp only [perform, tested]; rfl
  | draw found => simp only [perform, found]; rfl
  | awaitNoKey quiet => simp only [perform, quiet]
  | awaitKey reported =>
      simp only [perform, reported, Key.ofInteger_eq_ok_iff.mpr rfl]
      rfl
  | storeDecimal written => simp only [perform, storeAtIndex, written]; rfl
  | storeRegisters written =>
      simp only [perform_storeRegisters, storeAtIndex, written]
      rfl
  | loadRegisters found =>
      simp only [perform_loadRegisters, found]
      rfl
  | _ => rfl

theorem perform_eq_ok_iff {machine next : Machine} {input : Input} {byte : UInt8}
    {instruction : Instruction} :
    machine.perform input byte instruction = .ok next ↔
      machine.Performs input byte instruction next :=
  ⟨performs_of_perform, perform_of_performs⟩

theorem fetch_eq_ok_iff {machine : Machine} {opcode : UInt16} :
    machine.fetch = .ok opcode ↔
      machine.pc.toNat + 2 ≤ 4096 ∧
        opcode = UInt16.ofNat (256 * (machine.memory.byte machine.pc.toNat).toNat +
          (machine.memory.byte (machine.pc.toNat + 1)).toNat) := by
  rw [fetch, Outcome.map_eq_ok_iff]
  constructor
  · rintro ⟨bytes, found, rfl⟩
    rw [Memory.read_eq_ok_iff] at found
    rcases found with ⟨inside, rfl⟩
    exact ⟨by simp only [Memory.InRange] at inside; omega, rfl⟩
  · rintro ⟨inside, rfl⟩
    refine ⟨_, Memory.read_eq_ok_iff.mpr ⟨?_, rfl⟩, rfl⟩
    simp only [Memory.InRange]
    omega

end Machine

namespace System

theorem perform_eq_ok_iff {system next : System} {input : Input} {instruction : Instruction} :
    system.perform input instruction = .ok next ↔
      ∃ machine,
        (system.supply instruction).machine.Performs input system.byte instruction machine ∧
        { system.supply instruction with machine } = next := by
  simp only [perform, Outcome.map_eq_ok_iff, Machine.perform_eq_ok_iff]

theorem execute_eq_ok_iff {system next : System} {opcode : Int} {input : Input} :
    system.execute opcode input = .ok next ↔
      ∃ instruction, Instruction.Encodes opcode (Fields.ofOpcode opcode) instruction ∧
        system.perform input instruction = .ok next := by
  simp only [execute, ← Instruction.decode?_eq_some_iff]
  rcases Instruction.decode? opcode with _ | instruction
  · simp
  · simp

theorem cycle_eq_ok_iff {system next : System} {stimulus : Stimulus} :
    system.cycle stimulus = .ok next ↔
      ∃ opcode, system.machine.fetch = .ok opcode ∧
        ∃ executed, system.clearDirty.execute opcode.toNat stimulus.input = .ok executed ∧
          executed.tickIf stimulus.tick = next := by
  simp only [cycle, Outcome.bind_eq_ok_iff, Outcome.pure_eq_ok_iff]

@[simp]
theorem clearDirty_pc (system : System) : system.clearDirty.machine.pc = system.machine.pc :=
  rfl

@[simp]
theorem clearDirty_registers (system : System) :
    system.clearDirty.machine.registers = system.machine.registers :=
  rfl

@[simp]
theorem clearDirty_stack (system : System) :
    system.clearDirty.machine.stack = system.machine.stack :=
  rfl

@[simp]
theorem supply_pc (system : System) (instruction : Instruction) :
    (system.supply instruction).machine.pc = system.machine.pc := by
  cases instruction <;> rfl

@[simp]
theorem supply_registers (system : System) (instruction : Instruction) :
    (system.supply instruction).machine.registers = system.machine.registers := by
  cases instruction <;> rfl

@[simp]
theorem supply_stack (system : System) (instruction : Instruction) :
    (system.supply instruction).machine.stack = system.machine.stack := by
  cases instruction <;> rfl

@[simp]
theorem tickIf_pc (system : System) (tick : Bool) :
    (system.tickIf tick).machine.pc = system.machine.pc := by
  cases tick <;> rfl

@[simp]
theorem tickIf_memory (system : System) (tick : Bool) :
    (system.tickIf tick).machine.memory = system.machine.memory := by
  cases tick <;> rfl

@[simp]
theorem tickIf_display (system : System) (tick : Bool) :
    (system.tickIf tick).machine.display = system.machine.display := by
  cases tick <;> rfl

@[simp]
theorem tickIf_stack (system : System) (tick : Bool) :
    (system.tickIf tick).machine.stack = system.machine.stack := by
  cases tick <;> rfl

theorem cycle_of_fetch_error {system : System} {cause : Fault}
    (unfetched : system.machine.fetch = .error cause) (stimulus : Stimulus) :
    system.cycle stimulus = .error cause := by
  simp only [cycle, unfetched]
  rfl

theorem cycle_of_fetch {system : System} {opcode : UInt16}
    (fetched : system.machine.fetch = .ok opcode) (stimulus : Stimulus) :
    system.cycle stimulus =
      (system.clearDirty.execute opcode.toNat stimulus.input).map (·.tickIf stimulus.tick) := by
  simp only [cycle, fetched]
  change (system.clearDirty.execute opcode.toNat stimulus.input >>= _) = _
  rcases system.clearDirty.execute opcode.toNat stimulus.input with cause | executed
  · rfl
  · rfl

/-- A completed cycle fetched an opcode and performed its instruction, and ticked only then. -/
theorem exists_performs_of_cycle {system next : System} {stimulus : Stimulus}
    (completed : system.cycle stimulus = .ok next) :
    ∃ opcode instruction performed,
      system.machine.fetch = .ok opcode ∧
        Instruction.Encodes opcode.toNat (Fields.ofOpcode opcode.toNat) instruction ∧
        (system.clearDirty.supply instruction).machine.Performs stimulus.input system.byte
          instruction performed ∧
        next = ({ system.clearDirty.supply instruction with machine := performed }.tickIf
          stimulus.tick) := by
  rcases cycle_eq_ok_iff.mp completed with ⟨opcode, fetched, executed, execution, rfl⟩
  rcases execute_eq_ok_iff.mp execution with ⟨instruction, encoded, performing⟩
  rcases perform_eq_ok_iff.mp performing with ⟨performed, performs, rfl⟩
  exact ⟨opcode, instruction, performed, fetched, encoded, performs, rfl⟩

/-- A cycle is completed if its opcode is fetched and its instruction can be performed. -/
theorem cycle_of_performs {system : System} {stimulus : Stimulus} {opcode : UInt16}
    {instruction : Instruction} {performed : Machine}
    (fetched : system.machine.fetch = .ok opcode)
    (encoded : Instruction.Encodes opcode.toNat (Fields.ofOpcode opcode.toNat) instruction)
    (performs : (system.clearDirty.supply instruction).machine.Performs stimulus.input system.byte
      instruction performed) :
    system.cycle stimulus =
      .ok ({ system.clearDirty.supply instruction with machine := performed }.tickIf
        stimulus.tick) := by
  refine cycle_eq_ok_iff.mpr ⟨opcode, fetched, _, ?_, rfl⟩
  refine execute_eq_ok_iff.mpr ⟨instruction, encoded, ?_⟩
  exact perform_eq_ok_iff.mpr ⟨performed, performs, rfl⟩

/-- A run is completed if its first cycle is, and then the rest of it. -/
theorem run_cons_completed_iff {system reached : System} {stimulus : Stimulus}
    {rest : List Stimulus} :
    system.run (stimulus :: rest) = (reached, none) ↔
      ∃ next, system.cycle stimulus = .ok next ∧ next.run rest = (reached, none) := by
  rw [run]
  cases system.cycle stimulus <;> simp [proceed]

/-- What every completed cycle preserves holds after a run, completed or not. -/
theorem run_preserves {Property : System → Prop}
    (step : ∀ system stimulus next, Property system → system.cycle stimulus = .ok next →
      Property next)
    {system : System} (start : Property system) (stimuli : List Stimulus) :
    Property (system.run stimuli).1 := by
  induction stimuli generalizing system with
  | nil => exact start
  | cons stimulus rest ih =>
      rw [run]
      rcases completed : system.cycle stimulus with cause | next
      · exact start
      · exact ih (step system stimulus next start completed)

end System

end Chip8
