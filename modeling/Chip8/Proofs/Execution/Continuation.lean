import Chip8.Proofs.Execution.Frame
import Chip8.Proofs.Execution.Reachable

/-!
# Where execution goes on

`Machine.continuation` says for every opcode at which address a machine goes on that has executed
it: at an operand, at an address from the return stack, behind this instruction or behind the next
one, or at the same instruction again. Skips come in pairs with opposite conditions, and do nothing
but move the program counter.
-/

namespace Chip8

namespace Fields

/-- The skip of the first fields tests the opposite of what the skip of the second fields tests. -/
inductive Opposite (first second : Fields) : Prop where
  | byte (equal : first.family = 0x3) (different : second.family = 0x4)
      (sameRegister : first.x = second.x) (sameByte : first.nn = second.nn)
  | registers (equal : first.family = 0x5 ∧ first.n = 0)
      (different : second.family = 0x9 ∧ second.n = 0) (sameLeft : first.x = second.x)
      (sameRight : first.y = second.y)
  | key (down : first.family = 0xE ∧ first.nn = 0x9E) (up : second.family = 0xE ∧ second.nn = 0xA1)
      (sameRegister : first.x = second.x)

end Fields

/-- The opcodes of five families stand for skips or for nothing. -/
theorem Instruction.exists_eq_skipIf {opcode : Int} {instruction : Instruction}
    (encoded : Encodes opcode (Fields.ofOpcode opcode) instruction)
    (skip : (Fields.ofOpcode opcode).family ∈ [0x3, 0x4, 0x5, 0x9, 0xE]) :
    ∃ condition, instruction = .skipIf condition := by
  cases encoded with
  | skipIfHolds | skipIfDiffers | skipIfSame | skipIfDistinct | skipIfKeyDown | skipIfKeyUp =>
      exact ⟨_, rfl⟩
  | clearScreen exact | returnFromCall exact =>
      subst exact
      exact absurd skip (by decide)
  | jump family | call family | setByte family | addByte family | arithmetic operation family
  | setIndex family | jumpFrom family | random family | draw family | readDelay family
  | awaitKey family | setDelay family | setSound family | addToIndex family | pointAtGlyph family
  | storeDecimal family | storeRegisters family | loadRegisters family =>
      rw [family] at skip
      exact absurd skip (by decide)

namespace Machine

/-- Whether an opcode with the given fields skips. A key that does not exist is neither down nor
up. -/
def skips (machine : Machine) (input : Input) (fields : Fields) : Bool :=
  let left := machine.registers.get fields.x
  let right := machine.registers.get fields.y
  let key? := (Key.ofInteger left.toNat).toOption
  match fields.family with
  | 0x3 => left == fields.nn
  | 0x4 => left != fields.nn
  | 0x5 => left == right
  | 0x9 => left != right
  | 0xE => if fields.nn = 0x9E then key?.any input.isDown else key?.any fun key => !input.isDown key
  | _ => false

/-- The address at which a machine goes on behind an opcode that it has executed. -/
def continuation (machine : Machine) (input : Input) (opcode : Int) : Nat :=
  let fields := Fields.ofOpcode opcode
  let behind := (machine.pc.toNat + 2) % 65536
  let behindNext := (machine.pc.toNat + 4) % 65536
  match fields.family with
  | 0x0 =>
      if opcode = 0x00EE then (machine.stack.slot (machine.stack.pointer - 1)).toNat else behind
  | 0x1 | 0x2 => fields.nnn.toNat
  | 0x3 | 0x4 | 0x5 | 0x9 | 0xE => if machine.skips input fields then behindNext else behind
  | 0xB => fields.nnn.toNat + (machine.registers.get RegisterFile.firstRegister).toNat
  | 0xF => if fields.nn = 0x0A ∧ input.reported = none then machine.pc.toNat else behind
  | _ => behind

variable {machine next : Machine} {input : Input} {byte : UInt8} {instruction : Instruction}
  {condition : Condition} {opcode : Int} {fields : Fields} {holds : Bool}

theorem any_of_map_eq_ok {value : UInt8} {answer : Key → Bool}
    (asked : (Key.ofInteger value.toNat).map answer = .ok holds) :
    (Key.ofInteger value.toNat).toOption.any answer = holds := by
  rcases Outcome.map_eq_ok_iff.mp asked with ⟨key, named, answered⟩
  rw [named]
  exact answered

/-- The test of a skip finds what its fields say. -/
theorem skips_eq_of_test (encoded : Instruction.Encodes opcode fields (.skipIf condition))
    (tested : condition.test machine input = .ok holds) : machine.skips input fields = holds := by
  cases encoded with
  | skipIfHolds family | skipIfDiffers family | skipIfSame family last
  | skipIfDistinct family last =>
      cases tested
      simp [skips, family]
  | skipIfKeyDown family low =>
      simpa [skips, family, low] using any_of_map_eq_ok tested
  | skipIfKeyUp family low =>
      simpa [skips, family, low] using any_of_map_eq_ok tested

theorem continuation_of_skipIf
    (encoded : Instruction.Encodes opcode (Fields.ofOpcode opcode) (.skipIf condition)) :
    machine.continuation input opcode =
      (machine.pc.toNat + if machine.skips input (Fields.ofOpcode opcode) then 4 else 2) %
        65536 := by
  cases encoded with
  | skipIfHolds family | skipIfDiffers family | skipIfSame family | skipIfDistinct family
  | skipIfKeyDown family | skipIfKeyUp family =>
      simp only [continuation, family]
      split <;> rfl

theorem continuation_of_not_redirects
    (encoded : Instruction.Encodes opcode (Fields.ofOpcode opcode) instruction)
    (goesOn : ¬instruction.Redirects) :
    machine.continuation input opcode = (machine.pc.toNat + 2) % 65536 := by
  cases encoded with
  | clearScreen exact =>
      subst exact
      rfl
  | returnFromCall | jump | call | jumpFrom | skipIfHolds | skipIfDiffers | skipIfSame
  | skipIfDistinct | skipIfKeyDown | skipIfKeyUp | awaitKey => exact absurd trivial goesOn
  | setByte family | addByte family | arithmetic operation family | setIndex family
  | random family | draw family => simp [continuation, family]
  | readDelay family low | setDelay family low | setSound family low | addToIndex family low
  | pointAtGlyph family low | storeDecimal family low | storeRegisters family low
  | loadRegisters family low => simp [continuation, family, low]

theorem continuation_of_performs
    (encoded : Instruction.Encodes opcode (Fields.ofOpcode opcode) instruction)
    (performs : machine.Performs input byte instruction next) :
    next.pc.toNat = machine.continuation input opcode := by
  by_cases redirects : instruction.Redirects
  · cases performs with
    | returnFromCall popped =>
        cases encoded with
        | returnFromCall exact =>
            subst exact
            rcases ReturnStack.of_pop popped with ⟨_, counted, newest, _⟩
            simp [continuation, Fields.ofOpcode, counted, newest]
    | jump =>
        cases encoded with
        | jump family => simp [continuation, family]
    | call pushed =>
        cases encoded with
        | call family => simp [continuation, family]
    | @skipIf condition holds tested =>
        rw [continuation_of_skipIf encoded, skips_eq_of_test encoded tested]
        exact (UInt16.toNat_add _ _).trans (by cases holds <;> rfl)
    | jumpFrom =>
        cases encoded with
        | jumpFrom family =>
            simp only [continuation, family]
            exact toNat_base_add (Fields.nnn_lt opcode) _
    | awaitNoKey quiet =>
        cases encoded with
        | awaitKey family low => simp [continuation, family, low, quiet]
    | awaitKey reported =>
        cases encoded with
        | awaitKey family low =>
            simp only [continuation, family, low, reported]
            exact UInt16.toNat_add _ _
    | _ => exact redirects.elim
  · rw [continuation_of_not_redirects encoded redirects, performs.pc_eq redirects]
    exact UInt16.toNat_add _ _

theorem pc_skipIf_eq_iff (machine : Machine) (holds : Bool) :
    (machine.skipIf holds).pc = machine.pc + 4 ↔ holds = true := by
  cases holds <;> simp [skipIf, advance]

end Machine

namespace System

variable {system next : System} {input : Input} {condition : Condition} {opcode first second : Int}
  {holds : Bool}

theorem execute_of_test
    (encoded : Instruction.Encodes opcode (Fields.ofOpcode opcode) (.skipIf condition))
    (tested : condition.test system.machine input = .ok holds) :
    system.execute opcode input = .ok { system with machine := system.machine.skipIf holds } :=
  execute_eq_ok_iff.mpr ⟨_, encoded, perform_eq_ok_iff.mpr ⟨_, .skipIf tested, rfl⟩⟩

/-- Skips with opposite conditions find opposite answers, if a key that they ask for exists. -/
theorem exists_test_of_opposite
    (opposite : (Fields.ofOpcode first).Opposite (Fields.ofOpcode second))
    (exists_key : (Fields.ofOpcode first).family = 0xE →
      (system.machine.registers.get (Fields.ofOpcode first).x).toNat ≤ 15) :
    ∃ condition other holds,
      Instruction.Encodes first (Fields.ofOpcode first) (.skipIf condition) ∧
        Instruction.Encodes second (Fields.ofOpcode second) (.skipIf other) ∧
        condition.test system.machine input = .ok holds ∧
        other.test system.machine input = .ok !holds := by
  cases opposite with
  | byte equal different sameRegister sameByte =>
      refine ⟨_, _, _, .skipIfHolds equal, .skipIfDiffers different, rfl, ?_⟩
      rw [← sameRegister, ← sameByte]
      rfl
  | registers equal different sameLeft sameRight =>
      refine ⟨_, _, _, .skipIfSame equal.1 equal.2, .skipIfDistinct different.1 different.2, rfl,
        ?_⟩
      rw [← sameLeft, ← sameRight]
      rfl
  | key down up sameRegister =>
      have named := Nat.lt_succ_of_le (exists_key down.1)
      have asked : Key.ofInteger
          (system.machine.registers.get (Fields.ofOpcode first).x).toNat = .ok ⟨_, named⟩ :=
        Key.ofInteger_eq_ok_iff.mpr rfl
      refine ⟨_, _, input.isDown ⟨_, named⟩, .skipIfKeyDown down.1 down.2,
        .skipIfKeyUp up.1 up.2, ?_, ?_⟩
      · rw [Condition.test, asked]
        rfl
      · rw [Condition.test, ← sameRegister, asked]
        rfl

theorem next_eq_of_skip (executed : system.execute opcode input = .ok next)
    (skip : (Fields.ofOpcode opcode).family ∈ [0x3, 0x4, 0x5, 0x9, 0xE]) :
    next = { system with machine := { system.machine with pc := next.machine.pc } } := by
  rcases execute_eq_ok_iff.mp executed with ⟨instruction, encoded, performing⟩
  rcases perform_eq_ok_iff.mp performing with ⟨performed, performs, rfl⟩
  rcases Instruction.exists_eq_skipIf encoded skip with ⟨condition, rfl⟩
  cases performs
  rfl

/-- An opcode that is executed goes on at the address of `Machine.continuation`, and if it is a skip
then it does nothing else. Of two skips with opposite conditions, both are executed and exactly one
leaves out the next instruction. -/
theorem execute_continues (system : System) (input : Input) :
    (∀ opcode next, system.execute opcode input = .ok next →
      next.machine.pc.toNat = system.machine.continuation input opcode ∧
        ((Fields.ofOpcode opcode).family ∈ [0x3, 0x4, 0x5, 0x9, 0xE] →
          next = { system with machine := { system.machine with pc := next.machine.pc } })) ∧
    ∀ first second, (Fields.ofOpcode first).Opposite (Fields.ofOpcode second) →
      ((Fields.ofOpcode first).family = 0xE →
        (system.machine.registers.get (Fields.ofOpcode first).x).toNat ≤ 15) →
      ∃ next other, system.execute first input = .ok next ∧
        system.execute second input = .ok other ∧
        (next.machine.pc = system.machine.pc + 4 ↔ other.machine.pc ≠ system.machine.pc + 4) := by
  refine ⟨?_, ?_⟩
  · intro opcode next executed
    refine ⟨?_, next_eq_of_skip executed⟩
    rcases execute_eq_ok_iff.mp executed with ⟨instruction, encoded, performing⟩
    rcases perform_eq_ok_iff.mp performing with ⟨performed, performs, rfl⟩
    rcases exists_key_supply system instruction with ⟨key, supplied⟩
    have continued := Machine.continuation_of_performs encoded (supplied ▸ performs)
    exact continued
  · intro first second opposite exists_key
    rcases exists_test_of_opposite opposite exists_key with
      ⟨condition, other, holds, encoded, encodedToo, tested, testedToo⟩
    refine ⟨_, _, execute_of_test encoded tested, execute_of_test encodedToo testedToo, ?_⟩
    simp [Machine.pc_skipIf_eq_iff]

/-- At the end of the address space the program counter wraps, also behind a skip. -/
theorem wrappingSkip_continues :
    let machine := { Machine.powerOn ⟨0, 7⟩ with pc := 0xFFFE }
    ∃ next other, System.execute ⟨machine, .generator⟩ 0x3000 .none = .ok next ∧
      System.execute ⟨machine, .generator⟩ 0x4000 .none = .ok other ∧
      next.machine.pc.toNat = 2 ∧ other.machine.pc.toNat = 0 ∧
      next = ⟨{ machine with pc := next.machine.pc }, .generator⟩ ∧
      (next.machine.pc = machine.pc + 4 ↔ other.machine.pc ≠ machine.pc + 4) := by
  intro machine
  have opposite : (Fields.ofOpcode 0x3000).Opposite (Fields.ofOpcode 0x4000) :=
    .byte rfl rfl rfl rfl
  rcases execute_continues ⟨machine, .generator⟩ .none with ⟨law, pairs⟩
  rcases pairs 0x3000 0x4000 opposite (fun family => absurd family (by decide)) with
    ⟨next, other, executed, executedToo, oneSkips⟩
  have skipped : machine.continuation .none 0x3000 = 2 := by decide +kernel
  have notSkipped : machine.continuation .none 0x4000 = 0 := by decide +kernel
  refine ⟨next, other, executed, executedToo, (law _ _ executed).1.trans skipped,
    (law _ _ executedToo).1.trans notSkipped, ?_, oneSkips⟩
  exact (law _ _ executed).2 (by decide)

end System

end Chip8
