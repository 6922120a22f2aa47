import Chip8.Proofs.Execution.Faults
import Chip8.Proofs.Execution.Frame
import Chip8.Proofs.Execution.History

/-!
# The history of a byte of memory

Only two instructions change memory: one stores the decimal digits of a register and one a block of
registers, both from the index on. So a byte is after a run what the last store over it has put
there, and what it was before if there was none. A store that does not lie in memory as a whole
faults and puts nothing anywhere.
-/

namespace Chip8

namespace RegisterFile

theorem getElem?_through (registers : RegisterFile) {last register : Register}
    (inside : register ≤ last) :
    (registers.through last)[register.val]? = some (registers.get register) := by
  have below : register.val < last.val + 1 := Nat.lt_succ_of_le inside
  simp [through, get, below]

end RegisterFile

namespace Machine

/-- A decimal digit of a byte: the hundreds at offset 0, the tens at 1 and the ones at 2. -/
def digitAt (value : UInt8) (offset : Nat) : UInt8 :=
  UInt8.ofNat (value.toNat / 10 ^ (2 - offset) % 10)

theorem decimalDigits_eq_map (value : UInt8) :
    decimalDigits value = (List.range 3).map (digitAt value) := by
  have bound : value.toNat < 256 := value.toNat_lt
  have hundreds : value.toNat / 100 = value.toNat / 100 % 10 % 256 := by omega
  have tens : value.toNat / 10 % 10 = value.toNat / 10 % 10 % 256 := by omega
  have ones : value.toNat % 10 = value.toNat % 10 % 256 := by omega
  simp [decimalDigits, digitAt, List.range_succ, ← UInt8.toNat_inj, ← hundreds, ← tens, ← ones]

theorem sub_lt_of_le_add {start address : Nat} {last : Register}
    (inside : start ≤ address ∧ address ≤ start + last) : address - start < 16 := by
  omega

/-- The byte that an instruction stores at an address, if it stores one there. -/
def stored? (machine : Machine) (address : Nat) : Instruction → Option UInt8
  | .storeDecimal source =>
      if machine.index.toNat ≤ address ∧ address ≤ machine.index.toNat + 2 then
        some (digitAt (machine.registers.get source) (address - machine.index.toNat))
      else none
  | .storeRegisters last =>
      if inside : machine.index.toNat ≤ address ∧ address ≤ machine.index.toNat + last then
        some (machine.registers.get ⟨address - machine.index.toNat, sub_lt_of_le_add inside⟩)
      else none
  | _ => none

theorem stored?_storeDecimal (machine : Machine) (source : Register) (address : Nat) :
    machine.stored? address (.storeDecimal source) =
      if machine.index.toNat ≤ address then
        (decimalDigits (machine.registers.get source))[address - machine.index.toNat]?
      else none := by
  rw [decimalDigits_eq_map, List.getElem?_map, stored?]
  by_cases above : machine.index.toNat ≤ address
  · by_cases below : address ≤ machine.index.toNat + 2
    · have inside : address - machine.index.toNat < 3 := by omega
      simp [above, below, inside]
    · have outside : ¬address - machine.index.toNat < 3 := by omega
      simp [above, below, outside]
  · simp [above]

theorem stored?_storeRegisters (machine : Machine) (last : Register) (address : Nat) :
    machine.stored? address (.storeRegisters last) =
      if machine.index.toNat ≤ address then
        (machine.registers.through last)[address - machine.index.toNat]?
      else none := by
  rw [stored?]
  by_cases above : machine.index.toNat ≤ address
  · by_cases below : address ≤ machine.index.toNat + last
    · have inside := sub_lt_of_le_add ⟨above, below⟩
      have through : (⟨address - machine.index.toNat, inside⟩ : Register) ≤ last := by
        rw [Fin.le_def]
        dsimp only
        omega
      rw [dif_pos ⟨above, below⟩, if_pos above]
      exact (machine.registers.getElem?_through through).symm
    · have beyond : (machine.registers.through last).length ≤ address - machine.index.toNat := by
        rw [RegisterFile.length_through]
        omega
      rw [dif_neg (fun inside => below inside.2), List.getElem?_eq_none beyond, ite_self]
  · rw [dif_neg (fun inside => above inside.1), if_neg above]

theorem Performs.byte_eq_getD {machine next : Machine} {input : Input} {byte : UInt8}
    {instruction : Instruction} (performs : machine.Performs input byte instruction next)
    (address : Nat) :
    next.memory.byte address =
      (machine.stored? address instruction).getD (machine.memory.byte address) := by
  cases performs with
  | storeDecimal written =>
      rw [stored?_storeDecimal]
      refine (Memory.byte_write written address).trans ?_
      split <;> rfl
  | storeRegisters written =>
      rw [stored?_storeRegisters]
      refine (Memory.byte_write written address).trans ?_
      split <;> rfl
  | _ => rfl

end Machine

theorem Instruction.accessLength?_of_storeLength? {instruction : Instruction} {length : Nat}
    (stores : instruction.storeLength? = some length) :
    instruction.accessLength? = some length := by
  cases instruction with
  | storeDecimal source | storeRegisters last => exact stores
  | _ => cases stores

namespace System

/-- The byte that the next cycle stores at an address, if it stores one there. -/
def stored? (system : System) (address : Nat) : Option UInt8 :=
  system.pending?.bind (system.machine.stored? address)

/-- The byte that the completed cycles of a run have stored at an address last, if one of them has
stored one there. -/
def lastStored? (system : System) (stimuli : List Stimulus) (address : Nat) : Option UInt8 :=
  (system.path stimuli).reverse.findSome? (·.stored? address)

variable {system next : System} {stimulus : Stimulus} {instruction : Instruction} {length : Nat}

theorem byte_of_cycle (completed : system.cycle stimulus = .ok next) (address : Nat) :
    next.machine.memory.byte address =
      (system.stored? address).getD (system.machine.memory.byte address) := by
  rcases exists_performs_pending completed with ⟨instruction, performed, pending, performs, rfl⟩
  rcases exists_key_supply system.clearDirty instruction with ⟨key, supplied⟩
  rw [supplied] at performs
  rw [tickIf_memory, performs.byte_eq_getD address, stored?, pending]
  cases instruction <;> rfl

theorem cycle_of_access_beyond (pending : system.pending? = some instruction)
    (accesses : instruction.accessLength? = some length)
    (beyond : 4096 < system.machine.index.toNat + length) (stimulus : Stimulus) :
    system.cycle stimulus = .error (.memoryAccess system.machine.index.toNat length) := by
  rw [cycle_of_pending pending, Outcome.map_eq_error_iff, perform_eq_error_iff]
  exact .access accesses beyond

theorem exists_cycle_of_store_inside (pending : system.pending? = some instruction)
    (stores : instruction.storeLength? = some length)
    (inside : system.machine.index.toNat + length ≤ 4096) (stimulus : Stimulus) :
    ∃ next, system.cycle stimulus = .ok next := by
  apply Outcome.exists_ok_iff.mpr
  intro cause faulted
  rw [cycle_of_pending pending, Outcome.map_eq_error_iff, perform_eq_error_iff] at faulted
  cases faulted with
  | access accesses beyond =>
      rw [Instruction.accessLength?_of_storeLength? stores] at accesses
      obtain rfl := Option.some.inj accesses
      exact absurd beyond (Nat.not_lt_of_le inside)
  | _ => cases stores

end System

/-- A value that each of some entries replaces or keeps is in the end the last replacement. -/
theorem foldl_getD_eq {Entry Value : Type} (replaced? : Entry → Option Value)
    (entries : List Entry) (start : Value) :
    entries.foldl (fun kept entry => (replaced? entry).getD kept) start =
      (entries.reverse.findSome? replaced?).getD start := by
  -- The newest entry decides, so the induction takes entries off the end.
  induction entries using List.reverseRecOn with
  | nil => rfl
  | append_singleton entries entry ih =>
      rw [List.foldl_append, List.foldl_cons, List.foldl_nil, ih, List.reverse_concat,
        List.findSome?_cons]
      cases replaced? entry <;> rfl

namespace System

theorem byte_run (system : System) (stimuli : List Stimulus) (address : Nat) :
    (system.run stimuli).1.machine.memory.byte address =
      (system.lastStored? stimuli address).getD (system.machine.memory.byte address) := by
  have folded := run_eq_foldl_path (fun system => system.machine.memory.byte address)
    (fun kept before => (before.stored? address).getD kept)
    (fun _ _ _ completed => byte_of_cycle completed address) system stimuli
  rw [lastStored?, ← foldl_getD_eq]
  exact folded

/-- A byte of memory is after a run what the last store over it has put there, with the index and
the registers of that moment, and what it was before if there was none. A cycle that faults leaves
the run where it was. One that is to store does so exactly if there is memory for all of its bytes,
and otherwise it stores none of them. -/
theorem memory_follows_stores :
    (∀ (system : System) (stimuli : List Stimulus) (address : Nat),
      (system.run stimuli).1.machine.memory.byte address =
        (system.lastStored? stimuli address).getD (system.machine.memory.byte address)) ∧
    ∀ (system : System) (stimulus : Stimulus) (rest : List Stimulus),
      (∀ cause, system.cycle stimulus = .error cause →
        system.run (stimulus :: rest) = (system, some cause)) ∧
      ∀ instruction length, system.pending? = some instruction →
        instruction.storeLength? = some length →
          if system.machine.index.toNat + length ≤ 4096 then
            ∃ next, system.cycle stimulus = .ok next
          else
            system.run (stimulus :: rest) =
              (system, some (.memoryAccess system.machine.index.toNat length)) := by
  refine ⟨byte_run, ?_⟩
  intro system stimulus rest
  refine ⟨fun cause faulted => run_cons_of_error faulted rest, ?_⟩
  intro instruction length pending stores
  split
  · exact exists_cycle_of_store_inside pending stores ‹_› stimulus
  · have beyond : 4096 < system.machine.index.toNat + length := by omega
    have accesses := Instruction.accessLength?_of_storeLength? stores
    exact run_cons_of_error (cycle_of_access_beyond pending accesses beyond stimulus) rest

/-- Digits are stored, registers over a part of them, and registers up to the end of memory; a store
that would go on behind the end stores nothing. -/
theorem overlappingStores_memory :
    ∃ machine, Machine.boot ⟨0, 7⟩ [0x60, 0xFE, 0xA3, 0x00, 0xF0, 0x33, 0xA3, 0x01, 0xF0, 0x55,
        0xAF, 0xFE, 0xF1, 0x55, 0xF2, 0x55] = .ok machine ∧
      let system : System := ⟨machine, .generator⟩
      let stimulus : Stimulus := ⟨false, .none⟩
      let reached := (system.run (List.replicate 7 stimulus)).1
      (reached.machine.memory.byte 0x300 = 2 ∧ reached.machine.memory.byte 0x301 = 0xFE ∧
        reached.machine.memory.byte 0x302 = 4 ∧
        reached.machine.memory.byte 0x303 = machine.memory.byte 0x303 ∧
        reached.machine.memory.byte 0xFFE = 0xFE) ∧
      reached.pending? = some (.storeRegisters 2) ∧
      reached.run [stimulus] = (reached, some (.memoryAccess 0xFFE 3)) := by
  have boots : ∃ machine, Machine.boot ⟨0, 7⟩ [0x60, 0xFE, 0xA3, 0x00, 0xF0, 0x33, 0xA3, 0x01,
      0xF0, 0x55, 0xAF, 0xFE, 0xF1, 0x55, 0xF2, 0x55] = .ok machine := ⟨_, rfl⟩
  rcases boots with ⟨machine, booted⟩
  refine ⟨machine, booted, ?_⟩
  dsimp only
  have computed : (List.map (System.lastStored? ⟨machine, .generator⟩
        (List.replicate 7 ⟨false, .none⟩)) [0x300, 0x301, 0x302, 0x303, 0xFFE] =
          [some 2, some 0xFE, some 4, none, some 0xFE]) ∧
      (System.run ⟨machine, .generator⟩ (List.replicate 7 ⟨false, .none⟩)).1.pending? =
        some (.storeRegisters 2) ∧
      (System.run ⟨machine, .generator⟩ (List.replicate 7 ⟨false, .none⟩)).1.machine.index =
        0xFFE := by
    cases booted
    decide +kernel
  rcases computed with ⟨stored, pending, index_eq⟩
  simp only [List.map_cons, List.map_nil, List.cons.injEq, and_true] at stored
  rcases stored with ⟨hundreds, covered, ones, beside, last⟩
  have law := memory_follows_stores.1 ⟨machine, .generator⟩ (List.replicate 7 ⟨false, .none⟩)
  generalize (System.run ⟨machine, .generator⟩ (List.replicate 7 ⟨false, .none⟩)).1 = reached
    at law pending index_eq ⊢
  refine ⟨?_, pending, ?_⟩
  · simp only [law, hundreds, covered, ones, beside, last, Option.getD_some, Option.getD_none,
      and_self]
  · have refused := (memory_follows_stores.2 reached ⟨false, .none⟩ []).2 _ 3 pending rfl
    simpa [index_eq] using refused

end System

end Chip8
