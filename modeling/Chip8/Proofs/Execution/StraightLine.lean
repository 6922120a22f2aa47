import Chip8.Proofs.Execution.Frame
import Chip8.Proofs.Execution.Reachable
import Chip8.Proofs.Execution.Unread

/-!
# Straight-line programs

A program whose instructions all go on with the next one and store nothing is executed word by word.
Cycles that fetch its words from memory do the same as executing the words one after the other, and
fail at the same word if they fail.

Both runs are followed together. After each word memory is still the image that was loaded, the
program counter stands before the words that are left, and the two systems differ in the flag of the
display alone.
-/

namespace Chip8

def Word.bigEndian (word : UInt16) : List UInt8 :=
  [UInt8.ofNat (word.toNat / 256), UInt8.ofNat word.toNat]

theorem Word.ofNat_bytes (word : UInt16) :
    UInt16.ofNat (256 * (UInt8.ofNat (word.toNat / 256)).toNat + (UInt8.ofNat word.toNat).toNat) =
      word := by
  have bound : word.toNat < 65536 := word.toNat_lt
  apply UInt16.toNat_inj.mp
  rw [UInt16.toNat_ofNat', UInt8.toNat_ofNat', UInt8.toNat_ofNat']
  omega

/-- Opcodes after which execution goes on with the next one, and which store nothing in memory.
Opcodes without an instruction are among them. -/
structure StraightLine (word : UInt16) : Prop where
  family : (Fields.ofOpcode word.toNat).family ∉ [0x1, 0x2, 0x3, 0x4, 0x5, 0x9, 0xB, 0xE]
  notReturn : word ≠ 0x00EE
  low : (Fields.ofOpcode word.toNat).family = 0xF →
    (Fields.ofOpcode word.toNat).nn ∉ [0x0A, 0x33, 0x55]

namespace StraightLine

variable {word : UInt16} {instruction : Instruction}

theorem not_redirects (straight : StraightLine word)
    (encoded : Instruction.Encodes word.toNat (Fields.ofOpcode word.toNat) instruction) :
    ¬instruction.Redirects := by
  have family := straight.family
  have low := straight.low
  intro redirects
  cases encoded with
  | returnFromCall exact => exact straight.notReturn (UInt16.toNat_inj.mp (Int.ofNat.inj exact))
  | awaitKey is low' => simp_all
  | jump is | call is | skipIfHolds is | skipIfDiffers is | jumpFrom is => simp [is] at family
  | skipIfSame is last | skipIfDistinct is last => simp [is] at family
  | skipIfKeyDown is low' | skipIfKeyUp is low' => simp [is] at family
  | _ => exact redirects

theorem storeLength?_eq_none (straight : StraightLine word)
    (encoded : Instruction.Encodes word.toNat (Fields.ofOpcode word.toNat) instruction) :
    instruction.storeLength? = none := by
  cases encoded with
  | storeDecimal family low | storeRegisters family low =>
      have excluded := straight.low family
      simp [low] at excluded
  | _ => rfl

end StraightLine

theorem Machine.fetch_of_holds {machine : Machine} {word : UInt16} {data : List UInt8}
    (inside : machine.pc.toNat + 2 ≤ 4096)
    (holds : machine.memory.Holds machine.pc.toNat (Word.bigEndian word ++ data)) :
    machine.fetch = .ok word := by
  apply fetch_eq_ok_iff.mpr
  rw [holds.head, holds.tail.head, Word.ofNat_bytes]
  exact ⟨inside, rfl⟩

namespace System

/-- Executes opcodes one after the other up to the first fault. -/
def executeAll (system : System) (input : Input) : List UInt16 → System × Option Fault
  | [] => (system, none)
  | word :: rest =>
      system.proceed (system.execute word.toNat input) fun next => next.executeAll input rest

variable {system next : System} {input : Input}

theorem executeAll_cons_of_ok {word : UInt16}
    (executed : system.execute word.toNat input = .ok next) (rest : List UInt16) :
    system.executeAll input (word :: rest) = next.executeAll input rest := by
  rw [executeAll, executed]
  rfl

theorem executeAll_cons_of_error {word : UInt16} {cause : Fault}
    (faulted : system.execute word.toNat input = .error cause) (rest : List UInt16) :
    system.executeAll input (word :: rest) = (system, some cause) := by
  rw [executeAll, faulted]
  rfl

theorem runFor_succ_of_ok {stimulus : Stimulus} (completed : system.cycle stimulus = .ok next)
    (count : Nat) : system.runFor stimulus (count + 1) = next.runFor stimulus count := by
  rw [runFor, completed]
  rfl

theorem runFor_succ_of_error {stimulus : Stimulus} {cause : Fault}
    (faulted : system.cycle stimulus = .error cause) (count : Nat) :
    system.runFor stimulus (count + 1) = (system, some cause) := by
  rw [runFor, faulted]
  rfl

/-- Whether the flag is lowered beforehand makes no difference to an instruction but in the flag. -/
theorem execute_clearDirty (system : System) (opcode : Int) (input : Input) :
    (system.clearDirty.execute opcode input).map clearDirty =
      (system.execute opcode input).map clearDirty := by
  have lowered : system.clearDirty =
      system.recast system.machine.unread.clearDirty system.source := rfl
  rcases decoded : Instruction.decode? opcode with _ | instruction
  · rw [lowered, execute_recast_of_decode?_eq_none decoded]
  · have itself : (system.recast system.machine.unread system.source).execute opcode input = _ :=
      execute_recast decoded fun _ => rfl
    have other : (system.recast system.machine.unread.clearDirty system.source).execute opcode
        input = _ := execute_recast decoded fun _ => rfl
    rw [lowered, other]
    refine Eq.trans ?_ (congrArg (Except.map clearDirty) itself.symm)
    apply Outcome.map_map_eq_map_map
    intro next
    cases instruction <;> rfl

theorem pc_and_memory_of_straight_cycle {word : UInt16} {stimulus : Stimulus}
    (fetched : system.machine.fetch = .ok word) (straight : StraightLine word)
    (completed : system.cycle stimulus = .ok next) :
    next.machine.pc = system.machine.pc + 2 ∧ next.machine.memory = system.machine.memory := by
  rcases exists_performs_of_cycle completed with
    ⟨opcode, instruction, performed, refetched, encoded, performs, rfl⟩
  rw [fetched, Except.ok.injEq] at refetched
  subst refetched
  rcases exists_key_supply system.clearDirty instruction with ⟨key, supplied⟩
  rw [supplied] at performs
  refine ⟨?_, ?_⟩
  · rw [tickIf_pc]
    exact performs.pc_eq (straight.not_redirects encoded)
  · rw [tickIf_memory]
    exact performs.memory_eq (straight.storeLength?_eq_none encoded)

/-- A cycling and an executing system that have come to the same place of a program. -/
structure InStep (image : Memory) (rest : List UInt16) (cycled folded : System) : Prop where
  same : cycled.clearDirty = folded.clearDirty
  memory_eq : cycled.machine.memory = image
  holds : image.Holds cycled.machine.pc.toNat (rest.flatMap Word.bigEndian)
  fits : cycled.machine.pc.toNat + 2 * rest.length ≤ 4096

namespace InStep

variable {image : Memory} {word : UInt16} {rest : List UInt16} {cycled folded : System}

/-- One word: both systems fail with the same fault, or both go on in step. -/
theorem step (inStep : InStep image (word :: rest) cycled folded) (straight : StraightLine word)
    (input : Input) :
    (∃ cause, cycled.cycle ⟨false, input⟩ = .error cause ∧
        folded.execute word.toNat input = .error cause) ∨
      ∃ nextCycled nextFolded, cycled.cycle ⟨false, input⟩ = .ok nextCycled ∧
        folded.execute word.toNat input = .ok nextFolded ∧
        nextCycled.machine.pc.toNat = cycled.machine.pc.toNat + 2 ∧
        InStep image rest nextCycled nextFolded := by
  have fits := inStep.fits
  have holds := inStep.holds
  rw [List.length_cons] at fits
  rw [List.flatMap_cons] at holds
  have fetched : cycled.machine.fetch = .ok word := by
    apply Machine.fetch_of_holds (by omega)
    rw [inStep.memory_eq]
    exact holds
  have agree : (cycled.cycle ⟨false, input⟩).map clearDirty =
      (folded.execute word.toNat input).map clearDirty := by
    rw [← execute_clearDirty folded, ← inStep.same, cycle_of_fetch fetched]
    rcases cycled.clearDirty.execute word.toNat input with cause | next
    · rfl
    · rfl
  rcases completed : cycled.cycle ⟨false, input⟩ with cause | next
  · rw [completed] at agree
    exact .inl ⟨cause, rfl, Outcome.map_eq_error_iff.mp agree.symm⟩
  · rw [completed] at agree
    rcases Outcome.map_eq_ok_iff.mp agree.symm with ⟨nextFolded, executed, same⟩
    rcases pc_and_memory_of_straight_cycle fetched straight completed with ⟨pc_eq, memory_eq⟩
    have moved : next.machine.pc.toNat = cycled.machine.pc.toNat + 2 := by
      rw [pc_eq]
      exact Machine.toNat_pc_add (by omega) (by decide)
    refine .inr ⟨next, nextFolded, rfl, executed, moved, same.symm, ?_, ?_, ?_⟩
    · exact memory_eq.trans inStep.memory_eq
    · rw [moved]
      exact holds.tail.tail
    · omega

end InStep

/-- A computation that completes some of its steps and fails at the step with the given index. -/
def FailsAt (progress : Nat → System × Option Fault) (index : Nat) (cause : Fault) : Prop :=
  ∀ count, (progress count).2 = if index < count then some cause else none

namespace FailsAt

variable {progress later : Nat → System × Option Fault} {cause : Fault}

theorem zero (start : (progress 0).2 = none)
    (failed : ∀ count, (progress (count + 1)).2 = some cause) : FailsAt progress 0 cause := by
  intro count
  cases count with
  | zero => exact start
  | succ count => exact failed count

theorem succ {index : Nat} (start : (progress 0).2 = none)
    (step : ∀ count, progress (count + 1) = later count) (fails : FailsAt later index cause) :
    FailsAt progress (index + 1) cause := by
  intro count
  cases count with
  | zero => exact start
  | succ count =>
      rw [step, fails count]
      simp only [Nat.add_lt_add_iff_right]

end FailsAt

theorem InStep.run {image : Memory} {rest : List UInt16} {cycled folded : System}
    (inStep : InStep image rest cycled folded) (straight : ∀ word ∈ rest, StraightLine word)
    (input : Input) {count : Nat} (bound : count ≤ rest.length) :
    (∃ index < count, ∃ cause, FailsAt (cycled.runFor ⟨false, input⟩) index cause ∧
        FailsAt (fun steps => folded.executeAll input (rest.take steps)) index cause) ∨
      ∃ lastCycled lastFolded, cycled.runFor ⟨false, input⟩ count = (lastCycled, none) ∧
        folded.executeAll input (rest.take count) = (lastFolded, none) ∧
        lastCycled.machine.pc.toNat = cycled.machine.pc.toNat + 2 * count ∧
        InStep image (rest.drop count) lastCycled lastFolded := by
  induction rest generalizing cycled folded count with
  | nil =>
      obtain rfl : count = 0 := Nat.le_zero.mp bound
      exact .inr ⟨cycled, folded, rfl, rfl, rfl, inStep⟩
  | cons word rest ih =>
      rcases count with _ | count
      · exact .inr ⟨cycled, folded, rfl, rfl, rfl, inStep⟩
      · rcases inStep.step (straight word (.head rest)) input with
          ⟨cause, faulted, failed⟩ | ⟨nextCycled, nextFolded, completed, executed, moved, onward⟩
        · refine .inl ⟨0, Nat.succ_pos count, cause, .zero rfl ?_, .zero rfl ?_⟩
          · intro steps
            rw [runFor_succ_of_error faulted]
          · intro steps
            rw [List.take_succ_cons, executeAll_cons_of_error failed]
        · have cycles := runFor_succ_of_ok completed
          have executions (steps : Nat) :
              folded.executeAll input ((word :: rest).take (steps + 1)) =
                nextFolded.executeAll input (rest.take steps) := by
            rw [List.take_succ_cons, executeAll_cons_of_ok executed]
          rcases ih onward (fun other among => straight other (.tail word among))
              (Nat.le_of_succ_le_succ bound) with
            ⟨index, early, cause, cyclesFail, executionsFail⟩ |
            ⟨lastCycled, lastFolded, cycledThrough, executedThrough, pc_eq, final⟩
          -- Counted from the first word, the word that fails lies one further on.
          · exact .inl ⟨index + 1, Nat.succ_lt_succ early, cause, cyclesFail.succ rfl cycles,
              executionsFail.succ rfl executions⟩
          · refine .inr ⟨lastCycled, lastFolded, ?_, ?_, ?_, final⟩
            · rw [cycles, cycledThrough]
            · rw [executions, executedThrough]
            · omega

theorem inStep_of_boot {key : WordPair} {words : List UInt16} {machine : Machine}
    (fits : words.length ≤ 1792)
    (booted : Machine.boot key (words.flatMap Word.bigEndian) = .ok machine)
    (source : RandomSource) :
    InStep machine.memory words ⟨machine, source⟩ ⟨machine, source⟩ := by
  rcases Outcome.map_eq_ok_iff.mp booted with ⟨memory, accepted, rfl⟩
  refine ⟨rfl, rfl, Memory.holds_of_load accepted, ?_⟩
  change 0x200 + 2 * words.length ≤ 4096
  omega

/-- Cycling through a loaded program that is a straight line is executing its words one after the
other. Either both fail, at the same word and with the same fault, or both complete. Then they leave
the same system except for the flag of the display, the program counter stands behind the words and
memory is as it was loaded. -/
theorem exists_boot_cycles_executions (key : WordPair) (source : RandomSource) (input : Input)
    (words : List UInt16) (fits : words.length ≤ 1792)
    (straight : ∀ word ∈ words, StraightLine word) :
    ∃ machine, Machine.boot key (words.flatMap Word.bigEndian) = .ok machine ∧
      let cycles := (System.mk machine source).runFor ⟨false, input⟩
      let executions := fun count => (System.mk machine source).executeAll input (words.take count)
      ∀ count ≤ words.length,
        (∃ index < count, ∃ cause, FailsAt cycles index cause ∧ FailsAt executions index cause) ∨
          ∃ cycled folded, cycles count = (cycled, none) ∧ executions count = (folded, none) ∧
            cycled.clearDirty = folded.clearDirty ∧
            cycled.machine.pc.toNat = 0x200 + 2 * count ∧
            cycled.machine.memory = machine.memory := by
  have length_eq : (words.flatMap Word.bigEndian).length = 2 * words.length := by
    simp [Word.bigEndian, List.length_flatMap, Nat.mul_comm]
  rcases Machine.exists_boot (show (words.flatMap Word.bigEndian).length ≤ 3584 by omega) with
    ⟨memory, booted⟩
  refine ⟨_, booted, ?_⟩
  intro cycles executions count bound
  rcases (inStep_of_boot fits booted source).run straight input bound with
    fails | ⟨cycled, folded, cycledThrough, executedThrough, pc_eq, final⟩
  · exact .inl fails
  · exact .inr ⟨cycled, folded, cycledThrough, executedThrough, final.same, pc_eq, final.memory_eq⟩

/-- Three instructions, and a word that is none. -/
def brokenOff : List UInt16 :=
  [0x6A07, 0xC0FF, 0xA2F0, 0x00FF]

theorem brokenOff_cycles_executions :
    brokenOff.length ≤ 1792 ∧
      (∀ word ∈ brokenOff, StraightLine word) ∧
      ∃ machine, Machine.boot ⟨0, 7⟩ (brokenOff.flatMap Word.bigEndian) = .ok machine ∧
        let system : System := ⟨machine, .generator⟩
        let executions := fun count => system.executeAll .none (brokenOff.take count)
        FailsAt executions 3 (.invalidOpcode 0x00FF (some 0x206)) ∧
          ∃ cycled folded, system.runFor ⟨false, .none⟩ 3 = (cycled, none) ∧
            executions 3 = (folded, none) ∧ cycled.clearDirty = folded.clearDirty := by
  have straight : ∀ word ∈ brokenOff, StraightLine word := by
    intro word among
    simp only [brokenOff, List.mem_cons, List.not_mem_nil, or_false] at among
    rcases among with rfl | rfl | rfl | rfl <;> exact ⟨by decide, by decide, by decide⟩
  rcases exists_boot_cycles_executions ⟨0, 7⟩ .generator .none brokenOff
    (by decide) straight with ⟨machine, booted, agree⟩
  have computed : (System.runFor ⟨machine, .generator⟩ ⟨false, .none⟩ 3).2 = none ∧
      (System.runFor ⟨machine, .generator⟩ ⟨false, .none⟩ 4).2 =
        some (.invalidOpcode 0x00FF (some 0x206)) := by
    cases booted
    decide +kernel
  rcases computed with ⟨completes, fails⟩
  refine ⟨by decide, straight, machine, booted, ?_, ?_⟩
  · rcases agree 4 (by decide) with ⟨index, early, cause, cyclesFail, executionsFail⟩ | through
    · have third := cyclesFail 3
      have fourth := cyclesFail 4
      rw [completes] at third
      rw [fails] at fourth
      obtain rfl : index = 3 := by grind
      obtain rfl : cause = .invalidOpcode 0x00FF (some 0x206) := by simpa using fourth.symm
      exact executionsFail
    · rcases through with ⟨cycled, folded, cycledThrough, _⟩
      rw [cycledThrough] at fails
      exact absurd fails nofun
  · rcases agree 3 (by decide) with ⟨index, early, cause, cyclesFail, _⟩ | through
    · have third := cyclesFail 3
      rw [completes, if_pos early] at third
      exact absurd third nofun
    · rcases through with ⟨cycled, folded, cycledThrough, executedThrough, same, _⟩
      exact ⟨cycled, folded, cycledThrough, executedThrough, same⟩

end System

end Chip8
