import Chip8.Proofs.Execution.Faults

/-!
# Opcodes of more than sixteen bits

An opcode may be any integer. Its fields are what masks and shifts cut out of its two's complement,
and that depends on the opcode modulo 65536 only. So an opcode does what its low sixteen bits do,
and differs from them in the opcode that is reported as invalid. The two instructions without
operands are the exception: they go by the whole integer, and of all the opcodes with their fields
only one is theirs.
-/

namespace Chip8

/-- Under a mask of at most sixteen bits only the low sixteen bits of an integer show. -/
theorem land_eq_and_toNat_emod (value : Int) {mask : Nat} (mask_lt : mask < 2 ^ 16) :
    Int.land value mask = ((value % 65536).toNat &&& mask : Nat) := by
  have dark (place : Nat) (beyond : ¬place < 16) : mask.testBit place = false :=
    Nat.testBit_lt_two_pow (lt_of_lt_of_le mask_lt (Nat.pow_le_pow_right (by decide) (by omega)))
  cases value with
  | ofNat number =>
      have low : (Int.ofNat number % 65536).toNat = number % 2 ^ 16 := by
        rw [Int.ofNat_eq_natCast]
        omega
      rw [low]
      apply congrArg Int.ofNat
      apply Nat.eq_of_testBit_eq
      intro place
      rw [Nat.testBit_and, Nat.testBit_and, Nat.testBit_mod_two_pow]
      by_cases inside : place < 16 <;> simp [inside, dark]
  | negSucc number =>
      have low : (Int.negSucc number % 65536).toNat = 2 ^ 16 - (number % 2 ^ 16 + 1) := by omega
      rw [low]
      apply congrArg Int.ofNat
      apply Nat.eq_of_testBit_eq
      intro place
      rw [Nat.testBit_ldiff, Nat.testBit_and,
        Nat.testBit_two_pow_sub_succ (Nat.mod_lt _ (by decide)), Nat.testBit_mod_two_pow]
      by_cases inside : place < 16 <;> simp [inside, dark, Bool.and_comm]

namespace Fields

/-- The bits of an integer under a mask, moved to the right. -/
def cut (value : Int) (mask places : Nat) : Int :=
  Int.land value mask >>> places

/-- A mask of neighbouring bits cuts a digit out of the low sixteen bits. -/
theorem cut_shiftLeft (value : Int) {width places : Nat} (fits : width + places ≤ 16) :
    cut value ((2 ^ width - 1) <<< places) places =
      ((value % 65536).toNat / 2 ^ places % 2 ^ width : Nat) := by
  have mask_lt : (2 ^ width - 1) <<< places < 2 ^ 16 := by
    calc
      (2 ^ width - 1) <<< places = (2 ^ width - 1) * 2 ^ places := Nat.shiftLeft_eq _ _
      _ < 2 ^ width * 2 ^ places :=
        Nat.mul_lt_mul_of_pos_right (Nat.sub_lt (by positivity) (by decide)) (by positivity)
      _ = 2 ^ (width + places) := (Nat.pow_add _ _ _).symm
      _ ≤ 2 ^ 16 := Nat.pow_le_pow_right (by decide) fits
  rw [cut, land_eq_and_toNat_emod value mask_lt]
  apply congrArg Int.ofNat
  rw [Nat.shiftRight_and_distrib, Nat.shiftLeft_shiftRight, Nat.and_two_pow_sub_one_eq_mod,
    Nat.shiftRight_eq_div_pow]

/-- The fields are what masks and shifts cut out of an opcode. -/
structure CutFrom (fields : Fields) (opcode : Int) : Prop where
  family : (fields.family.val : Int) = cut opcode 0xF000 12
  x : (fields.x.val : Int) = cut opcode 0x0F00 8
  y : (fields.y.val : Int) = cut opcode 0x00F0 4
  n : (fields.n.val : Int) = cut opcode 0x000F 0
  nn : (fields.nn.toNat : Int) = cut opcode 0x00FF 0
  nnn : (fields.nnn.toNat : Int) = cut opcode 0x0FFF 0

theorem cutFrom_ofOpcode (opcode : Int) : (ofOpcode opcode).CutFrom opcode where
  family := (cut_shiftLeft opcode (show 4 + 12 ≤ 16 by decide)).symm
  x := (cut_shiftLeft opcode (show 4 + 8 ≤ 16 by decide)).symm
  y := (cut_shiftLeft opcode (show 4 + 4 ≤ 16 by decide)).symm
  n := by
    refine Eq.trans ?_ (cut_shiftLeft opcode (show 4 + 0 ≤ 16 by decide)).symm
    simp [ofOpcode]
  nn := by
    refine Eq.trans ?_ (cut_shiftLeft opcode (show 8 + 0 ≤ 16 by decide)).symm
    simp [ofOpcode]
  nnn := by
    refine Eq.trans ?_ (cut_shiftLeft opcode (show 12 + 0 ≤ 16 by decide)).symm
    simp only [ofOpcode, UInt16.toNat_ofNat']
    omega

/-- The fields are the digits of the low sixteen bits. -/
theorem digits_ofOpcode (opcode : Int) :
    let fields := ofOpcode opcode
    (4096 * fields.family.val + 256 * fields.x.val + 16 * fields.y.val + fields.n.val : Int) =
        opcode % 65536 ∧
      fields.nn.toNat = 16 * fields.y.val + fields.n.val ∧
      fields.nnn.toNat = 256 * fields.x.val + fields.nn.toNat := by
  simp only [ofOpcode, Fin.val_ofNat, UInt8.toNat_ofNat', UInt16.toNat_ofNat']
  omega

theorem ofOpcode_eq_of_emod_eq {opcode other : Int} (same : opcode % 65536 = other % 65536) :
    ofOpcode opcode = ofOpcode other := by
  rw [ofOpcode, ofOpcode, same]

end Fields

namespace Instruction

theorem system?_eq_none {opcode : Int} (notClear : opcode ≠ 0x00E0) (notReturn : opcode ≠ 0x00EE) :
    system? opcode = none := by
  rw [system?, if_neg notClear, if_neg notReturn]

theorem decode?_eq_of_emod_eq {opcode other : Int} (same : opcode % 65536 = other % 65536)
    (notSystem : system? opcode = system? other) : decode? opcode = decode? other := by
  simp only [decode?, Fields.ofOpcode_eq_of_emod_eq same, notSystem]

end Instruction

/-- The fault with another opcode, if it reports one. -/
def Fault.withOpcode (opcode : Int) : Fault → Fault
  | .invalidOpcode _ address => .invalidOpcode opcode address
  | fault => fault

theorem Machine.Fails.withOpcode_eq {machine : Machine} {input : Input} {instruction : Instruction}
    {fault : Fault} (fails : machine.Fails input instruction fault) (opcode : Int) :
    fault.withOpcode opcode = fault := by
  cases fails <;> rfl

namespace System

theorem mapError_perform (system : System) (input : Input) (instruction : Instruction)
    (opcode : Int) :
    (system.perform input instruction).mapError (Fault.withOpcode opcode) =
      system.perform input instruction := by
  rcases performed : system.perform input instruction with fault | next
  · exact congrArg Except.error ((perform_eq_error_iff.mp performed).withOpcode_eq opcode)
  · rfl

/-- Opcodes that decode alike are executed alike, but for the opcode of an invalid one. -/
theorem execute_of_decode?_eq (system : System) (input : Input) {opcode other : Int}
    (same : Instruction.decode? other = Instruction.decode? opcode) :
    system.execute other input =
      (system.execute opcode input).mapError (Fault.withOpcode other) := by
  rw [execute, execute, same]
  rcases Instruction.decode? opcode with _ | instruction
  · rfl
  · exact (mapError_perform system input instruction other).symm

/-- The fields of an opcode, whatever its sign and size, are what masks and shifts cut out of it,
and the digits of its remainder modulo 65536. An opcode that differs from another by a multiple of
65536 does the same or fails with the same fault, in which an invalid opcode is its own; but none
except `00E0` and `00EE` themselves stands for the instructions without operands. -/
theorem wide_opcodes_reduce :
    (∀ opcode : Int,
      let fields := Fields.ofOpcode opcode
      fields.CutFrom opcode ∧
        (4096 * fields.family.val + 256 * fields.x.val + 16 * fields.y.val + fields.n.val : Int) =
          opcode % 65536 ∧
        fields.nn.toNat = 16 * fields.y.val + fields.n.val ∧
        fields.nnn.toNat = 256 * fields.x.val + fields.nn.toNat) ∧
    ∀ (system : System) (input : Input) (opcode turns : Int),
      0 ≤ opcode → opcode < 65536 → turns ≠ 0 →
        let wide := opcode + 65536 * turns
        if opcode = 0x00E0 ∨ opcode = 0x00EE then
          system.execute wide input =
            .error (.invalidOpcode wide (some system.machine.pc.toNat))
        else
          system.execute wide input =
            (system.execute opcode input).mapError (Fault.withOpcode wide) := by
  refine ⟨fun opcode => ⟨Fields.cutFrom_ofOpcode opcode, Fields.digits_ofOpcode opcode⟩, ?_⟩
  intro system input opcode turns nonneg below wound wide
  have same : wide % 65536 = opcode % 65536 := Int.add_mul_emod_self_left ..
  have outside : Instruction.system? wide = none :=
    Instruction.system?_eq_none (by omega) (by omega)
  split
  case isTrue exact =>
    have family : (Fields.ofOpcode wide).family = 0x0 := by
      rw [Fields.ofOpcode_eq_of_emod_eq same]
      rcases exact with rfl | rfl <;> rfl
    have undecoded : Instruction.decode? wide = none :=
      Instruction.decode?_eq_none_iff.mpr (.system family (by omega) (by omega))
    rw [execute, undecoded]
  case isFalse other =>
    rcases not_or.mp other with ⟨notClear, notReturn⟩
    apply execute_of_decode?_eq
    apply Instruction.decode?_eq_of_emod_eq same
    rw [outside, Instruction.system?_eq_none notClear notReturn]

/-- A negative opcode that is executed, a negative one that is invalid, and one that looks like
`00E0` but is not. -/
theorem negativeOpcodes_reduce :
    let system : System := ⟨Machine.powerOn ⟨0, 7⟩, .generator⟩
    ((0 : Int) ≤ 0x6A07 ∧ (0x6A07 : Int) < 65536 ∧ (-1 : Int) ≠ 0 ∧
        ∃ next, system.execute 0x6A07 .none = .ok next ∧
          system.execute (-0x95F9) .none = .ok next) ∧
      system.execute (-0x7FF8) .none = .error (.invalidOpcode (-0x7FF8) (some 0x200)) ∧
      system.execute 0x100E0 .none = .error (.invalidOpcode 0x100E0 (some 0x200)) := by
  intro system
  have reduces := wide_opcodes_reduce.2 system .none
  refine ⟨⟨by decide, by decide, by decide, ?_⟩, ?_, ?_⟩
  · have executes : ∃ next, system.execute 0x6A07 .none = .ok next := ⟨_, rfl⟩
    rcases executes with ⟨next, executed⟩
    have wide := reduces 0x6A07 (-1) (by decide) (by decide) (by decide)
    rw [if_neg (by decide), executed] at wide
    exact ⟨next, executed, wide⟩
  · have refused : system.execute 0x8008 .none =
        .error (.invalidOpcode 0x8008 (some 0x200)) := rfl
    have wide := reduces 0x8008 (-1) (by decide) (by decide) (by decide)
    rw [if_neg (by decide), refused] at wide
    exact wide
  · have wide := reduces 0x00E0 1 (by decide) (by decide) (by decide)
    rw [if_pos (by decide)] at wide
    exact wide

end System

end Chip8
