import Chip8.Proofs.Execution.Effects
import Chip8.Proofs.Memory.Access

/-!
# What an instruction leaves alone

A system falls into parts, and every instruction has a few of them to itself. All other parts it
keeps, which means of the program counter that it moves on to the next instruction.

The first half goes through the parts of a machine one by one and tells for each of them which
instructions have to be excluded. `System.Touches` lists the same instructions by the fields of
their opcodes.
-/

namespace Chip8

inductive Part where
  | key
  | source
  | memory (address : Nat)
  | stack
  | display
  | delay
  | sound
  | index
  | register (register : Register)
  | pc

namespace Instruction

/-- The number of bytes that an instruction stores from the index on. -/
def storeLength? : Instruction → Option Nat
  | .storeDecimal _ => some 3
  | .storeRegisters last => some (last + 1)
  | _ => none

def Sets : Instruction → Register → Prop
  | .setByte target _, register | .addByte target _, register | .random target _, register
  | .readDelay target, register | .awaitKey target, register => register = target
  | .arithmetic operation target _, register =>
      register = target ∨
        register = RegisterFile.flagRegister ∧ operation.digit ∈ [0x4, 0x5, 0x6, 0x7, 0xE]
  | .draw _ _ _, register => register = RegisterFile.flagRegister
  | .loadRegisters last, register => register ≤ last
  | _, _ => False

/-- Instructions that need not go on with the one behind them. -/
def Redirects : Instruction → Prop
  | .returnFromCall | .jump _ | .call _ | .skipIf _ | .jumpFrom _ | .awaitKey _ => True
  | _ => False

end Instruction

namespace Machine

theorem get_combine (machine : Machine) (operation : Arithmetic) (target source register : Register)
    (kept : ¬(Instruction.arithmetic operation target source).Sets register) :
    (machine.combine operation target source).registers.get register =
      machine.registers.get register := by
  simp only [Instruction.Sets, not_or, not_and] at kept
  rw [combine]
  dsimp only
  rw [RegisterFile.get_set, if_neg (Ne.symm kept.1)]
  split
  · rename_i flag flagged
    have notFlag : RegisterFile.flagRegister ≠ register := by
      rintro rfl
      apply kept.2 rfl
      cases operation <;> simp [Arithmetic.flag?] at flagged <;> simp [Arithmetic.digit]
    rw [RegisterFile.setFlag, RegisterFile.get_set, if_neg notFlag]
  · rfl

namespace Performs

variable {machine next : Machine} {input : Input} {byte : UInt8} {instruction : Instruction}

theorem key_eq (performs : machine.Performs input byte instruction next) :
    next.key = machine.key := by
  cases performs <;> rfl

theorem byte_eq (performs : machine.Performs input byte instruction next) {address : Nat}
    (outside : ∀ length, instruction.storeLength? = some length →
      ¬(machine.index.toNat ≤ address ∧ address < machine.index.toNat + length)) :
    next.memory.byte address = machine.memory.byte address := by
  cases performs with
  | storeDecimal written => exact Memory.byte_of_write written (outside 3 rfl)
  | @storeRegisters last memory written =>
      apply Memory.byte_of_write written
      rw [RegisterFile.length_through]
      exact outside _ rfl
  | _ => rfl

theorem memory_eq (performs : machine.Performs input byte instruction next)
    (noStore : instruction.storeLength? = none) : next.memory = machine.memory := by
  cases performs with
  | storeDecimal | storeRegisters => exact absurd noStore nofun
  | _ => rfl

/-- The return stack is kept, has lost its newest address, or has gained one. -/
theorem stack_cases (performs : machine.Performs input byte instruction next) :
    next.stack = machine.stack ∨
      (instruction = .returnFromCall ∧ machine.stack.pop = .ok (next.pc, next.stack)) ∨
      (∃ target, instruction = .call target) ∧
        machine.stack.push (machine.pc + 2) = .ok next.stack := by
  cases performs with
  | returnFromCall popped => exact .inr (.inl ⟨rfl, popped⟩)
  | call pushed => exact .inr (.inr ⟨⟨_, rfl⟩, pushed⟩)
  | _ => exact .inl rfl

theorem display_eq (performs : machine.Performs input byte instruction next)
    (noClear : instruction ≠ .clearScreen)
    (noDraw : ∀ column row height, instruction ≠ .draw column row height) :
    next.display = machine.display := by
  cases performs with
  | clearScreen => exact absurd rfl noClear
  | draw found => exact absurd rfl (noDraw _ _ _)
  | _ => rfl

theorem delay_eq (performs : machine.Performs input byte instruction next)
    (noSet : ∀ source, instruction ≠ .setDelay source) : next.delay = machine.delay := by
  cases performs with
  | setDelay => exact absurd rfl (noSet _)
  | _ => rfl

theorem sound_eq (performs : machine.Performs input byte instruction next)
    (noSet : ∀ source, instruction ≠ .setSound source) : next.sound = machine.sound := by
  cases performs with
  | setSound => exact absurd rfl (noSet _)
  | _ => rfl

theorem index_eq (performs : machine.Performs input byte instruction next)
    (noSet : ∀ address, instruction ≠ .setIndex address)
    (noAdd : ∀ source, instruction ≠ .addToIndex source)
    (noGlyph : ∀ source, instruction ≠ .pointAtGlyph source) : next.index = machine.index := by
  cases performs with
  | setIndex => exact absurd rfl (noSet _)
  | addToIndex => exact absurd rfl (noAdd _)
  | pointAtGlyph => exact absurd rfl (noGlyph _)
  | _ => rfl

theorem get_eq (performs : machine.Performs input byte instruction next) {register : Register}
    (kept : ¬instruction.Sets register) :
    next.registers.get register = machine.registers.get register := by
  cases performs with
  | setByte | addByte | random | readDelay | awaitKey =>
      exact (RegisterFile.get_set ..).trans (if_neg (Ne.symm kept))
  | arithmetic => exact get_combine machine _ _ _ register kept
  | draw found => exact (RegisterFile.get_set ..).trans (if_neg (Ne.symm kept))
  | @loadRegisters last values found =>
      have beyond : values.length ≤ register.val := by
        rw [Memory.read_eq_ok_iff] at found
        rw [← found.2, Memory.length_slice, Int.toNat_natCast]
        exact Nat.lt_of_not_le kept
      refine (RegisterFile.get_fill ..).trans ?_
      rw [List.getElem?_eq_none beyond, Option.getD_none]
  | _ => rfl

theorem pc_eq (performs : machine.Performs input byte instruction next)
    (goesOn : ¬instruction.Redirects) : next.pc = machine.pc + 2 := by
  cases performs with
  | returnFromCall | jump | call | skipIf | jumpFrom | awaitNoKey | awaitKey =>
      exact absurd trivial goesOn
  | _ => rfl

end Performs

end Machine

namespace System

/-- A part of a system after an instruction that does not touch it. -/
def Keeps (before after : System) : Part → Prop
  | .key => after.machine.key = before.machine.key
  | .source => after.source = before.source
  | .memory address => after.machine.memory.byte address = before.machine.memory.byte address
  | .stack => after.machine.stack = before.machine.stack
  | .display => after.machine.display = before.machine.display
  | .delay => after.machine.delay = before.machine.delay
  | .sound => after.machine.sound = before.machine.sound
  | .index => after.machine.index = before.machine.index
  | .register register =>
      after.machine.registers.get register = before.machine.registers.get register
  | .pc => after.machine.pc = before.machine.pc + 2

/-- An opcode with the given fields can change a part of a system. -/
inductive Touches (system : System) (opcode : Int) (fields : Fields) : Part → Prop where
  | key (family : fields.family = 0xC) (generated : system.source = .generator) :
      Touches system opcode fields .key
  | source (family : fields.family = 0xC) (scripted : system.source ≠ .generator) :
      Touches system opcode fields .source
  | storedDecimal {address : Nat} (family : fields.family = 0xF) (low : fields.nn = 0x33)
      (above : system.machine.index.toNat ≤ address)
      (below : address ≤ system.machine.index.toNat + 2) :
      Touches system opcode fields (.memory address)
  | storedRegister {address : Nat} (family : fields.family = 0xF) (low : fields.nn = 0x55)
      (above : system.machine.index.toNat ≤ address)
      (below : address ≤ system.machine.index.toNat + fields.x) :
      Touches system opcode fields (.memory address)
  | pushed (family : fields.family = 0x2) : Touches system opcode fields .stack
  | popped (exact : opcode = 0x00EE) : Touches system opcode fields .stack
  | cleared (exact : opcode = 0x00E0) : Touches system opcode fields .display
  | drawn (family : fields.family = 0xD) : Touches system opcode fields .display
  | delay (family : fields.family = 0xF) (low : fields.nn = 0x15) :
      Touches system opcode fields .delay
  | sound (family : fields.family = 0xF) (low : fields.nn = 0x18) :
      Touches system opcode fields .sound
  | index (family : fields.family = 0xA) : Touches system opcode fields .index
  | movedIndex (family : fields.family = 0xF) (low : fields.nn = 0x1E ∨ fields.nn = 0x29) :
      Touches system opcode fields .index
  | target (family : fields.family ∈ [0x6, 0x7, 0x8, 0xC]) :
      Touches system opcode fields (.register fields.x)
  | received (family : fields.family = 0xF) (low : fields.nn = 0x07 ∨ fields.nn = 0x0A) :
      Touches system opcode fields (.register fields.x)
  | flag (family : fields.family = 0x8) (last : fields.n ∈ [0x4, 0x5, 0x6, 0x7, 0xE]) :
      Touches system opcode fields (.register 15)
  | collision (family : fields.family = 0xD) : Touches system opcode fields (.register 15)
  | loaded {register : Register} (family : fields.family = 0xF) (low : fields.nn = 0x65)
      (through : register ≤ fields.x) : Touches system opcode fields (.register register)
  | returned (exact : opcode = 0x00EE) : Touches system opcode fields .pc
  | jumped (family : fields.family ∈ [0x1, 0x2, 0xB]) : Touches system opcode fields .pc
  | compared (family : fields.family ∈ [0x3, 0x4]) : Touches system opcode fields .pc
  | comparedRegisters (family : fields.family ∈ [0x5, 0x9]) (last : fields.n = 0) :
      Touches system opcode fields .pc
  | askedKey (family : fields.family = 0xE) (low : fields.nn = 0x9E ∨ fields.nn = 0xA1) :
      Touches system opcode fields .pc
  | awaitedKey (family : fields.family = 0xF) (low : fields.nn = 0x0A) :
      Touches system opcode fields .pc

variable {system next : System} {opcode : Int} {fields : Fields} {instruction : Instruction}

theorem touches_of_stores (encoded : Instruction.Encodes opcode fields instruction)
    {address length : Nat} (stores : instruction.storeLength? = some length)
    (above : system.machine.index.toNat ≤ address)
    (below : address < system.machine.index.toNat + length) :
    system.Touches opcode fields (.memory address) := by
  cases encoded with
  | storeDecimal family low =>
      cases stores
      exact .storedDecimal family low above (by omega)
  | storeRegisters family low =>
      cases stores
      exact .storedRegister family low above (by omega)
  | _ => cases stores

theorem touches_of_sets (encoded : Instruction.Encodes opcode fields instruction)
    {register : Register} (sets : instruction.Sets register) :
    system.Touches opcode fields (.register register) := by
  cases encoded with
  | setByte family | addByte family | random family =>
      cases sets
      exact .target (by simp [family])
  | arithmetic operation family last =>
      rcases sets with rfl | ⟨rfl, digit⟩
      · exact .target (by simp [family])
      · rw [← last] at digit
        refine .flag family ?_
        simpa [Fin.ext_iff] using digit
  | draw family =>
      cases sets
      exact .collision family
  | readDelay family low =>
      cases sets
      exact .received family (.inl low)
  | awaitKey family low =>
      cases sets
      exact .received family (.inr low)
  | loadRegisters family low => exact .loaded family low sets
  | _ => cases sets

theorem touches_of_redirects (encoded : Instruction.Encodes opcode fields instruction)
    (redirects : instruction.Redirects) : system.Touches opcode fields .pc := by
  cases encoded with
  | returnFromCall exact => exact .returned exact
  | jump family | call family | jumpFrom family => exact .jumped (by simp [family])
  | skipIfHolds family | skipIfDiffers family => exact .compared (by simp [family])
  | skipIfSame family last | skipIfDistinct family last =>
      exact .comparedRegisters (by simp [family]) last
  | skipIfKeyDown family low => exact .askedKey family (.inl low)
  | skipIfKeyUp family low => exact .askedKey family (.inr low)
  | awaitKey family low => exact .awaitedKey family low
  | _ => cases redirects

theorem exists_key_supply (system : System) (instruction : Instruction) :
    ∃ key, (system.supply instruction).machine = { system.machine with key } := by
  cases instruction <;> exact ⟨_, rfl⟩

/-- The key moves only when a byte is sampled from the generator. -/
theorem supply_key
    (unsampled : ∀ target mask, instruction = .random target mask → system.source ≠ .generator) :
    (system.supply instruction).machine.key = system.machine.key := by
  cases instruction with
  | random target mask =>
      rcases source : system.source with _ | ⟨script, rewindable⟩
      · exact absurd source (unsampled target mask rfl)
      · simp only [supply, sample, source, RandomSource.nextKey]
  | _ => rfl

/-- The source moves only when a byte is sampled from a script. -/
theorem supply_source
    (unsampled : ∀ target mask, instruction = .random target mask → system.source = .generator) :
    (system.supply instruction).source = system.source := by
  cases instruction with
  | random target mask =>
      rw [supply, sample, unsampled target mask rfl]
      rfl
  | _ => rfl

/-- An opcode that is executed keeps every part of the system that it does not touch. -/
theorem keeps_of_execute {input : Input} (executed : system.execute opcode input = .ok next)
    (part : Part) (untouched : ¬system.Touches opcode (Fields.ofOpcode opcode) part) :
    system.Keeps next part := by
  rcases execute_eq_ok_iff.mp executed with ⟨instruction, encoded, performing⟩
  rcases perform_eq_ok_iff.mp performing with ⟨machine, performed, rfl⟩
  rcases exists_key_supply system instruction with ⟨key, supplied⟩
  -- Apart from the key, the machine that performs the instruction is the one from before.
  have performs := supplied ▸ performed
  cases part with
  | key =>
      refine performed.key_eq.trans (supply_key ?_)
      rintro target mask rfl generated
      cases encoded with
      | random family => exact untouched (.key family generated)
  | source =>
      refine supply_source ?_
      rintro target mask rfl
      cases encoded with
      | random family =>
          by_contra scripted
          exact untouched (.source family scripted)
  | memory address =>
      refine performs.byte_eq ?_
      rintro length stores ⟨above, below⟩
      exact untouched (touches_of_stores encoded stores above below)
  | stack =>
      rcases performs.stack_cases with kept | ⟨rfl, popped⟩ | ⟨⟨target, rfl⟩, pushed⟩
      · exact kept
      · cases encoded with
        | returnFromCall exact => exact absurd (.popped exact) untouched
      · cases encoded with
        | call family => exact absurd (.pushed family) untouched
  | display =>
      refine performs.display_eq ?_ ?_
      · rintro rfl
        cases encoded with
        | clearScreen exact => exact untouched (.cleared exact)
      · rintro column row height rfl
        cases encoded with
        | draw family => exact untouched (.drawn family)
  | delay =>
      refine performs.delay_eq ?_
      rintro source rfl
      cases encoded with
      | setDelay family low => exact untouched (.delay family low)
  | sound =>
      refine performs.sound_eq ?_
      rintro source rfl
      cases encoded with
      | setSound family low => exact untouched (.sound family low)
  | index =>
      refine performs.index_eq ?_ ?_ ?_
      · rintro address rfl
        cases encoded with
        | setIndex family => exact untouched (.index family)
      · rintro source rfl
        cases encoded with
        | addToIndex family low => exact untouched (.movedIndex family (.inl low))
      · rintro source rfl
        cases encoded with
        | pointAtGlyph family low => exact untouched (.movedIndex family (.inr low))
  | register register =>
      refine performs.get_eq ?_
      intro sets
      exact untouched (touches_of_sets encoded sets)
  | pc =>
      refine performs.pc_eq ?_
      intro redirects
      exact untouched (touches_of_redirects encoded redirects)

theorem keeps_of_execute_storeRegisters :
    ∃ next,
      System.execute ⟨{ Machine.powerOn ⟨0, 7⟩ with index := 0x300 }, .generator⟩ 0xF155 .none =
          .ok next ∧
        ¬Touches ⟨{ Machine.powerOn ⟨0, 7⟩ with index := 0x300 }, .generator⟩ 0xF155
          (Fields.ofOpcode 0xF155) (.memory 0x302) ∧
        Keeps ⟨{ Machine.powerOn ⟨0, 7⟩ with index := 0x300 }, .generator⟩ next
          (.memory 0x302) := by
  have executes : ∃ next, System.execute
      ⟨{ Machine.powerOn ⟨0, 7⟩ with index := 0x300 }, .generator⟩ 0xF155 .none = .ok next :=
    ⟨_, rfl⟩
  have untouched : ¬Touches ⟨{ Machine.powerOn ⟨0, 7⟩ with index := 0x300 }, .generator⟩ 0xF155
      (Fields.ofOpcode 0xF155) (.memory 0x302) := by
    intro touched
    cases touched with
    | storedDecimal family low => exact absurd low (by decide)
    | storedRegister family low above below => exact absurd below (by decide)
  rcases executes with ⟨next, executed⟩
  exact ⟨next, executed, untouched, keeps_of_execute executed _ untouched⟩

end System

end Chip8
