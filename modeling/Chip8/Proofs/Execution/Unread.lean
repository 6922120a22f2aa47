import Chip8.Proofs.Execution.History

/-!
# What no instruction reads

The key of the generator, the flag of the display and the sound timer are parts of a machine that
instructions write but never read; a random byte is handed to an instruction, wherever it comes
from. So a system with other values in these parts, and with another source that happens to give
the same byte, does the same and keeps its own values, except for those that are written.
-/

namespace Chip8

/-- The parts of a machine that no instruction reads. -/
structure Unread where
  key : WordPair
  dirty : Bool
  sound : Timer

def RandomSource.after (source : RandomSource) (instruction : Instruction) : RandomSource :=
  if instruction.isRandom then source.next else source

namespace Unread

/-- What an instruction makes of these parts, with bytes from a source. -/
def after (unread : Unread) (source : RandomSource) (registers : RegisterFile) :
    Instruction → Unread
  | .clearScreen | .draw _ _ _ => { unread with dirty := true }
  | .random _ _ => { unread with key := source.nextKey unread.key }
  | .setSound register => { unread with sound := ⟨registers.get register⟩ }
  | _ => unread

def clearDirty (unread : Unread) : Unread :=
  { unread with dirty := false }

def tickIf (unread : Unread) (tick : Bool) : Unread :=
  if tick then { unread with sound := unread.sound.tick } else unread

def afterCycle (unread : Unread) (source : RandomSource) (registers : RegisterFile)
    (instruction : Instruction) (tick : Bool) : Unread :=
  (unread.clearDirty.after source registers instruction).tickIf tick

end Unread

namespace Machine

def unread (machine : Machine) : Unread :=
  ⟨machine.key, machine.display.dirty, machine.sound⟩

def withUnread (machine : Machine) (unread : Unread) : Machine :=
  { machine with
    key := unread.key
    display := { machine.display with dirty := unread.dirty }
    sound := unread.sound }

variable {machine : Machine} {unread : Unread} {input : Input}

theorem test_withUnread (condition : Condition) :
    condition.test (machine.withUnread unread) input = condition.test machine input := by
  cases condition <;> rfl

theorem storeAtIndex_withUnread (data : List UInt8) :
    (machine.withUnread unread).storeAtIndex data =
      (machine.storeAtIndex data).map (·.withUnread unread) :=
  Outcome.map_eq_map_map fun _ => rfl

theorem perform_of_not_isRandom {instruction : Instruction} (unused : ¬instruction.isRandom)
    (byte other : UInt8) :
    machine.perform input byte instruction = machine.perform input other instruction := by
  cases instruction with
  | random target mask => exact absurd rfl unused
  | _ => rfl

/-- An instruction that samples no byte does the same whatever the unread parts are. -/
theorem perform_withUnread (machine : Machine) (unread : Unread) (input : Input) (byte : UInt8)
    (source : RandomSource) {instruction : Instruction} (unsampled : ¬instruction.isRandom) :
    (machine.withUnread unread).perform input byte instruction =
      (machine.perform input byte instruction).map
        (·.withUnread (unread.after source machine.registers instruction)) := by
  cases instruction with
  | random target mask => exact absurd rfl unsampled
  | returnFromCall =>
      simp only [perform]
      exact Outcome.map_eq_map_map fun _ => rfl
  | call target =>
      simp only [perform]
      exact Outcome.map_eq_map_map fun _ => rfl
  | skipIf condition =>
      simp only [perform, test_withUnread]
      exact Outcome.map_eq_map_map fun _ => rfl
  | draw column row height =>
      simp only [perform]
      exact Outcome.map_eq_map_map fun _ => rfl
  | awaitKey target =>
      simp only [perform]
      rcases input.reported with _ | number
      · rfl
      · exact Outcome.map_eq_map_map fun _ => rfl
  | storeDecimal source =>
      simp only [perform, storeAtIndex_withUnread]
      exact Outcome.map_map_eq_map_map fun _ => rfl
  | storeRegisters last =>
      simp only [perform_storeRegisters, storeAtIndex_withUnread]
      exact Outcome.map_map_eq_map_map fun _ => rfl
  | loadRegisters last =>
      simp only [perform_loadRegisters]
      exact Outcome.map_eq_map_map fun _ => rfl
  | _ => rfl

end Machine

namespace System

/-- The system with other values in the unread parts and another source. -/
def recast (system : System) (unread : Unread) (source : RandomSource) : System :=
  ⟨system.machine.withUnread unread, source⟩

variable {system next : System} {unread : Unread} {source : RandomSource} {input : Input}
  {instruction : Instruction} {opcode : Int} {stimulus : Stimulus} {cause : Fault}

theorem recast_self (system : System) :
    system.recast system.machine.unread system.source = system :=
  rfl

theorem supply_of_not_isRandom (system : System) (unsampled : ¬instruction.isRandom) :
    system.supply instruction = system := by
  cases instruction with
  | random target mask => exact absurd rfl unsampled
  | _ => rfl

theorem perform_recast
    (sameByte : instruction.isRandom → source.byte unread.key = system.byte) :
    (system.recast unread source).perform input instruction =
      (system.perform input instruction).map
        (·.recast (unread.after source system.machine.registers instruction)
          (source.after instruction)) := by
  by_cases sampling : instruction.isRandom
  · cases instruction with
    | random target mask =>
        have byte_eq : (system.recast unread source).byte = system.byte := sameByte rfl
        rw [perform, perform, byte_eq]
        rfl
    | _ => contradiction
  · rw [perform, perform, supply_of_not_isRandom _ sampling, supply_of_not_isRandom _ sampling,
      Machine.perform_of_not_isRandom sampling _ system.byte, recast,
      system.machine.perform_withUnread unread input system.byte source sampling,
      RandomSource.after, if_neg sampling]
    exact Outcome.map_map_eq_map_map fun _ => rfl

theorem execute_recast (decoded : Instruction.decode? opcode = some instruction)
    (sameByte : instruction.isRandom → source.byte unread.key = system.byte) :
    (system.recast unread source).execute opcode input =
      (system.execute opcode input).map
        (·.recast (unread.after source system.machine.registers instruction)
          (source.after instruction)) := by
  simp only [execute, decoded]
  exact perform_recast sameByte

theorem execute_recast_of_decode?_eq_none (undecoded : Instruction.decode? opcode = none) :
    (system.recast unread source).execute opcode input = system.execute opcode input := by
  simp only [execute, undecoded]
  rfl

theorem fetch_recast (system : System) (unread : Unread) (source : RandomSource) :
    (system.recast unread source).machine.fetch = system.machine.fetch :=
  rfl

theorem clearDirty_recast (system : System) (unread : Unread) (source : RandomSource) :
    (system.recast unread source).clearDirty = system.clearDirty.recast unread.clearDirty source :=
  rfl

theorem tickIf_recast (system : System) (unread : Unread) (source : RandomSource) (tick : Bool) :
    (system.recast unread source).tickIf tick =
      (system.tickIf tick).recast (unread.tickIf tick) source := by
  cases tick <;> rfl

/-- A cycle that has an instruction to execute does the same whatever the unread parts are. -/
theorem cycle_recast (pending : system.pending? = some instruction)
    (sameByte : instruction.isRandom → source.byte unread.key = system.byte) :
    (system.recast unread source).cycle stimulus =
      (system.cycle stimulus).map
        (·.recast (unread.afterCycle source system.machine.registers instruction stimulus.tick)
          (source.after instruction)) := by
  rcases fetched : system.machine.fetch with cause | opcode
  · rw [pending?_of_fetch_error fetched] at pending
    contradiction
  · have decoded := (pending?_of_fetch fetched).symm.trans pending
    have refetched := (fetch_recast system unread source).trans fetched
    have executed : (system.clearDirty.recast unread.clearDirty source).execute opcode.toNat
        stimulus.input = _ := execute_recast decoded sameByte
    rw [cycle_of_fetch fetched, cycle_of_fetch refetched, clearDirty_recast, executed]
    exact Outcome.map_map_eq_map_map fun next => tickIf_recast next _ _ _

theorem cycle_recast_of_pending?_eq_none (unread : Unread) (source : RandomSource)
    (stimulus : Stimulus) (undecoded : system.pending? = none) :
    ∃ cause, system.cycle stimulus = .error cause ∧
      (system.recast unread source).cycle stimulus = .error cause := by
  rcases fetched : system.machine.fetch with cause | opcode
  · have refetched := (fetch_recast system unread source).trans fetched
    exact ⟨cause, cycle_of_fetch_error fetched _, cycle_of_fetch_error refetched _⟩
  · have decoded := (pending?_of_fetch fetched).symm.trans undecoded
    have refetched := (fetch_recast system unread source).trans fetched
    rw [cycle_of_fetch fetched, cycle_of_fetch refetched, clearDirty_recast,
      execute_recast_of_decode?_eq_none decoded]
    simp only [execute, decoded]
    exact ⟨_, rfl, rfl⟩

theorem unread_of_cycle (pending : system.pending? = some instruction)
    (completed : system.cycle stimulus = .ok next) :
    next.machine.unread = system.machine.unread.afterCycle system.source
        system.machine.registers instruction stimulus.tick ∧
      next.source = system.source.after instruction := by
  have itself : (system.recast system.machine.unread system.source).cycle stimulus = _ :=
    cycle_recast pending fun _ => rfl
  rw [recast_self, completed] at itself
  have next_eq := Except.ok.inj itself
  exact ⟨congrArg (·.machine.unread) next_eq, congrArg System.source next_eq⟩

end System

end Chip8
