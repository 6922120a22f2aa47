import Chip8.Proofs.Execution.Effects

/-!
# Arithmetic with two registers

`Arithmetic.table` says in plain numbers what the opcodes `8XYN` compute. The operands are read
before anything is written; then the flag is written, if there is one, and the result after it. So
it does not matter whether the two registers are the same or whether one of them is VF, except that
a result in VF leaves no flag.
-/

namespace Chip8

namespace Arithmetic

/-- What the last digit of an opcode makes of the numbers in two registers: the result, and the flag
if there is one. -/
def table (left right : Nat) : Fin 16 → Option (Nat × Option Nat)
  | 0x0 => some (right, none)
  | 0x1 => some (left ||| right, none)
  | 0x2 => some (left &&& right, none)
  | 0x3 => some (left ^^^ right, none)
  | 0x4 => some ((left + right) % 256, some (if 255 < left + right then 1 else 0))
  | 0x5 => some ((((left : Int) - right) % 256).toNat, some (if right < left then 1 else 0))
  | 0x6 => some (left / 2, some (left % 2))
  | 0x7 => some ((((right : Int) - left) % 256).toNat, some (if left < right then 1 else 0))
  | 0xE => some (2 * left % 256, some (if 128 ≤ left then 1 else 0))
  | _ => none

theorem toNat_sub_eq_emod (left right : UInt8) :
    (left - right).toNat = (((left.toNat : Int) - right.toNat) % 256).toNat := by
  have leftBound : left.toNat < 256 := left.toNat_lt
  have rightBound : right.toNat < 256 := right.toNat_lt
  rw [UInt8.toNat_sub]
  omega

theorem testBit_seven (value : UInt8) : value.toNat.testBit 7 = decide (128 ≤ value.toNat) := by
  have bound : value.toNat < 256 := value.toNat_lt
  rw [Nat.testBit_eq_decide_div_mod_eq, decide_eq_decide]
  omega

/-- The operations compute what the table says. -/
theorem table_eq (operation : Arithmetic) {digit : Fin 16} (last : digit.val = operation.digit)
    (left right : UInt8) :
    table left.toNat right.toNat digit =
      some ((operation.result left right).toNat,
        (operation.flag? left right).map Bool.toNat) := by
  cases operation with
  | copy =>
      obtain rfl : digit = 0x0 := Fin.ext last
      rfl
  | or =>
      obtain rfl : digit = 0x1 := Fin.ext last
      simp [table, result, flag?]
  | and =>
      obtain rfl : digit = 0x2 := Fin.ext last
      simp [table, result, flag?]
  | xor =>
      obtain rfl : digit = 0x3 := Fin.ext last
      simp [table, result, flag?]
  | add =>
      obtain rfl : digit = 0x4 := Fin.ext last
      simp [table, result, flag?, Bool.toNat]
  | subtract =>
      obtain rfl : digit = 0x5 := Fin.ext last
      simp [table, result, flag?, Bool.toNat, toNat_sub_eq_emod, UInt8.lt_iff_toNat_lt]
  | shiftRight =>
      obtain rfl : digit = 0x6 := Fin.ext last
      simp only [table, result, flag?, Option.map_some, Nat.toNat_testBit]
      simp [Nat.shiftRight_eq_div_pow]
  | subtractFrom =>
      obtain rfl : digit = 0x7 := Fin.ext last
      simp [table, result, flag?, Bool.toNat, toNat_sub_eq_emod, UInt8.lt_iff_toNat_lt]
  | shiftLeft =>
      obtain rfl : digit = 0xE := Fin.ext last
      simp [table, result, flag?, testBit_seven, Bool.toNat, Nat.shiftLeft_eq, Nat.mul_comm]

theorem exists_digit_eq {digit : Fin 16} (assigned : digit ≤ 7 ∨ digit = 0xE) :
    ∃ operation : Arithmetic, digit.val = operation.digit := by
  rcases found : ofDigit? digit with _ | operation
  · rcases ofDigit?_eq_none_iff.mp found with ⟨above, notShift⟩
    exact absurd assigned (not_or.mpr ⟨above, notShift⟩)
  · exact ⟨operation, ofDigit?_eq_some_iff.mp found⟩

end Arithmetic

namespace RegisterFile

/-- The registers with a flag written to VF, if there is one, and then a result to its target. -/
def settle (registers : RegisterFile) (target : Register) (result : Nat) (flag? : Option Nat) :
    RegisterFile :=
  (flag?.elim registers fun flag => registers.setFlag (UInt8.ofNat flag)).set target
    (UInt8.ofNat result)

theorem get_settle (registers : RegisterFile) (target : Register) (result : Nat)
    (flag? : Option Nat) (register : Register) :
    (registers.settle target result flag?).get register =
      if register = target then UInt8.ofNat result
      else if register = 15 then flag?.elim (registers.get 15) UInt8.ofNat
      else registers.get register := by
  rw [settle, get_set]
  rcases flag? with _ | flag
  · grind
  · simp only [Option.elim, setFlag, flagRegister, get_set]
    grind

end RegisterFile

theorem Machine.combine_eq_settle (machine : Machine) (operation : Arithmetic)
    (target source : Register) :
    machine.combine operation target source =
      { machine with
        registers := machine.registers.settle target
          (operation.result (machine.registers.get target) (machine.registers.get source)).toNat
          ((operation.flag? (machine.registers.get target)
            (machine.registers.get source)).map Bool.toNat) } := by
  rw [combine, RegisterFile.settle, UInt8.ofNat_toNat]
  rcases operation.flag? (machine.registers.get target) (machine.registers.get source) with
    _ | flag
  · rfl
  · cases flag <;> rfl

namespace System

/-- An opcode `8XYN` with one of the nine digits leaves the result of the table in VX, the flag of
the table in VF unless that is VX, and every other register as it was; both come from the values
that VX and VY had before. It goes on with the next instruction, and changes nothing else. -/
theorem execute_arithmetic (system : System) (opcode : Int) (input : Input)
    (family : (Fields.ofOpcode opcode).family = 0x8)
    (assigned : (Fields.ofOpcode opcode).n ≤ 7 ∨ (Fields.ofOpcode opcode).n = 0xE) :
    let fields := Fields.ofOpcode opcode
    let before := system.machine.registers
    ∃ result flag?,
      Arithmetic.table (before.get fields.x).toNat (before.get fields.y).toNat fields.n =
          some (result, flag?) ∧
        system.execute opcode input = .ok { system with
          machine := { system.machine with
            registers := before.settle fields.x result flag?
            pc := system.machine.pc + 2 } } ∧
        ∀ register, ((before.settle fields.x result flag?).get register).toNat =
          if register = fields.x then result
          else if register = 15 then flag?.getD (before.get 15).toNat
          else (before.get register).toNat := by
  intro fields before
  rcases Arithmetic.exists_digit_eq assigned with ⟨operation, last⟩
  refine ⟨_, _, Arithmetic.table_eq operation last _ _, ?_, ?_⟩
  · refine execute_eq_ok_iff.mpr ⟨_, .arithmetic operation family last, ?_⟩
    refine perform_eq_ok_iff.mpr ⟨_, .arithmetic, ?_⟩
    rw [Machine.combine_eq_settle]
    rfl
  · intro register
    rw [RegisterFile.get_settle]
    split
    · rw [UInt8.ofNat_toNat]
    · split
      · rcases operation.flag? (before.get fields.x) (before.get fields.y) with _ | flag
        · rfl
        · cases flag <;> rfl
      · rfl

/-- An addition into VF that carries, and a subtraction of VF that leaves its flag there. -/
theorem flagRegister_execute_arithmetic :
    let machine := { Machine.powerOn ⟨0, 7⟩ with
      registers := (RegisterFile.powerOn.set 1 100).set 15 200 }
    (∃ next, System.execute ⟨machine, .generator⟩ 0x8F14 .none = .ok next ∧
        (next.machine.registers.get 15).toNat = 44) ∧
      ∃ next, System.execute ⟨machine, .generator⟩ 0x81F5 .none = .ok next ∧
        (next.machine.registers.get 1).toNat = 156 ∧
        (next.machine.registers.get 15).toNat = 0 := by
  intro machine
  rcases execute_arithmetic ⟨machine, .generator⟩ 0x8F14 .none rfl (.inl (by decide)) with
    ⟨sum, carry, added, addedTo, sums⟩
  rcases execute_arithmetic ⟨machine, .generator⟩ 0x81F5 .none rfl (.inl (by decide)) with
    ⟨difference, borrow, subtracted, subtractedFrom, differences⟩
  have addition : Arithmetic.table 200 100 0x4 = some (44, some 1) := rfl
  have subtraction : Arithmetic.table 100 200 0x5 = some (156, some 0) := rfl
  obtain ⟨rfl, rfl⟩ := Prod.mk.inj (Option.some.inj (addition.symm.trans added))
  obtain ⟨rfl, rfl⟩ := Prod.mk.inj (Option.some.inj (subtraction.symm.trans subtracted))
  exact ⟨⟨_, addedTo, sums 15⟩, _, subtractedFrom, differences 1, differences 15⟩

end System

end Chip8
