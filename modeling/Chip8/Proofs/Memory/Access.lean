import Chip8.Machine.Memory
import Chip8.Proofs.Outcome

/-!
# Reading and writing memory

Every access names a range, which is refused unless it lies in memory. A write that is accepted puts
its data into the range and leaves every byte outside as it was, and a read gives the bytes of its
range. So whatever two ranges have in common, a read after a write sees the data where they meet and
the old bytes elsewhere. The laws of two writes follow byte by byte, since memories with the same
bytes are equal.
-/

namespace Chip8

namespace Memory

/-- The bytes from an address on begin with the given ones. -/
def Holds (memory : Memory) (address : Nat) (data : List UInt8) : Prop :=
  ∀ offset byte, data[offset]? = some byte → memory.byte (address + offset) = byte

/-- Two ranges, each given by its first address and its length, have no address in common. -/
def Apart (start : Int) (count : Nat) (otherStart : Int) (otherCount : Nat) : Prop :=
  ∀ address : Int, ¬((start ≤ address ∧ address < start + count) ∧
    otherStart ≤ address ∧ address < otherStart + otherCount)

variable {memory next : Memory} {base count address : Nat} {data otherData : List UInt8}

theorem ext_byte {left right : Memory} (same : ∀ address, left.byte address = right.byte address) :
    left = right := by
  obtain ⟨leftBytes⟩ := left
  obtain ⟨rightBytes⟩ := right
  congr 1
  apply Vector.ext
  intro address inside
  have cell := same address
  simpa [byte, inside] using cell

theorem Holds.head {first : UInt8} (holds : memory.Holds address (first :: data)) :
    memory.byte address = first :=
  holds 0 first rfl

theorem Holds.tail {first : UInt8} (holds : memory.Holds address (first :: data)) :
    memory.Holds (address + 1) data := by
  intro offset byte found
  rw [Nat.add_right_comm]
  exact holds (offset + 1) byte found

theorem holds_slice (memory : Memory) (start count : Nat) :
    memory.Holds start (memory.slice start count) := by
  intro offset byte found
  rw [getElem?_slice] at found
  split at found
  · exact Option.some.inj found
  · contradiction

theorem exists_write_of_inside (memory : Memory) (inside : base + data.length ≤ 4096) :
    ∃ next, memory.write base data = .ok next :=
  ⟨_, write_eq_ok_iff.mpr ⟨by omega, rfl⟩⟩

theorem inside_of_write (written : memory.write base data = .ok next) :
    base + data.length ≤ 4096 := by
  rcases write_eq_ok_iff.mp written with ⟨inside, _⟩
  omega

theorem byte_write (written : memory.write base data = .ok next) (address : Nat) :
    next.byte address =
      if base ≤ address then data[address - base]?.getD (memory.byte address)
      else memory.byte address := by
  rcases write_eq_ok_iff.mp written with ⟨inside, rfl⟩
  exact byte_overlay memory base data (by omega) address

theorem byte_of_write (written : memory.write base data = .ok next)
    (outside : ¬(base ≤ address ∧ address < base + data.length)) :
    next.byte address = memory.byte address := by
  rw [byte_write written]
  split
  · have beyond : data[address - base]? = none := List.getElem?_eq_none (by omega)
    rw [beyond, Option.getD_none]
  · rfl

theorem holds_of_write (written : memory.write base data = .ok next) : next.Holds base data := by
  intro offset byte found
  rw [byte_write written, if_pos (Nat.le_add_right ..), Nat.add_sub_cancel_left, found,
    Option.getD_some]

theorem holds_of_load {program : List UInt8} (accepted : memory.load program = .ok next) :
    next.Holds programStart program :=
  holds_of_write accepted

theorem getElem?_of_write (written : memory.write base data = .ok next)
    (among : base ≤ address ∧ address < base + data.length) :
    data[address - base]? = some (next.byte address) := by
  have found := List.getElem?_eq_getElem (l := data) (i := address - base) (by omega)
  have held := holds_of_write written _ _ found
  rw [Nat.add_sub_cancel' among.1] at held
  rw [found, held]

/-- What has been written is read back. -/
theorem slice_of_write (written : memory.write base data = .ok next) :
    next.slice base data.length = data := by
  apply List.ext_getElem?
  intro offset
  rw [getElem?_slice]
  by_cases inside : offset < data.length
  · have found := List.getElem?_eq_getElem inside
    rw [if_pos inside, found, holds_of_write written _ _ found]
  · rw [if_neg inside, List.getElem?_eq_none (Nat.le_of_not_lt inside)]

/-- Writing what is there already changes nothing. -/
theorem write_slice (inside : base + count ≤ 4096) :
    memory.write base (memory.slice base count) = .ok memory := by
  have fits : base + (memory.slice base count).length ≤ 4096 := by rwa [length_slice]
  rcases memory.exists_write_of_inside fits with ⟨next, written⟩
  have same : next = memory := by
    apply ext_byte
    intro address
    rw [byte_write written, getElem?_slice]
    split
    · rename_i above
      rw [Nat.add_sub_cancel' above]
      split <;> rfl
    · rfl
  rw [written, same]

/-- Of two writes to the same range the later one counts. -/
theorem write_of_write (written : memory.write base data = .ok next)
    (sameLength : data.length = otherData.length) :
    next.write base otherData = memory.write base otherData := by
  have inside := inside_of_write written
  rw [sameLength] at inside
  rcases next.exists_write_of_inside inside with ⟨after, writtenAfter⟩
  rcases memory.exists_write_of_inside inside with ⟨direct, writtenDirectly⟩
  rw [writtenAfter, writtenDirectly, Except.ok.injEq]
  apply ext_byte
  intro address
  by_cases among : base ≤ address ∧ address < base + otherData.length
  · have found := getElem?_of_write writtenAfter among
    rwa [getElem?_of_write writtenDirectly among, Option.some.injEq, eq_comm] at found
  · rw [byte_of_write writtenAfter among, byte_of_write writtenDirectly among]
    exact byte_of_write written (sameLength ▸ among)

/-- Writes to ranges that do not meet leave the same memory in either order. -/
theorem eq_of_disjoint_writes {otherBase : Nat} {left right leftRight rightLeft : Memory}
    (apart : Apart base data.length otherBase otherData.length)
    (first : memory.write base data = .ok left)
    (thenSecond : left.write otherBase otherData = .ok leftRight)
    (second : memory.write otherBase otherData = .ok right)
    (thenFirst : right.write base data = .ok rightLeft) : leftRight = rightLeft := by
  apply ext_byte
  intro address
  by_cases among : base ≤ address ∧ address < base + data.length
  · have elsewhere : ¬(otherBase ≤ address ∧ address < otherBase + otherData.length) := by
      intro amongOther
      exact apart address (by omega)
    have found := getElem?_of_write thenFirst among
    rw [getElem?_of_write first among, Option.some.injEq] at found
    rw [byte_of_write thenSecond elsewhere, found]
  · rw [byte_of_write thenFirst among]
    by_cases amongOther : otherBase ≤ address ∧ address < otherBase + otherData.length
    · have found := getElem?_of_write thenSecond amongOther
      rwa [getElem?_of_write second amongOther, Option.some.injEq, eq_comm] at found
    · rw [byte_of_write thenSecond amongOther, byte_of_write second amongOther,
        byte_of_write first among]

/-- Whether a write is refused depends on its range only. -/
theorem write_refused {start : Int} {cause : Fault}
    (refused : memory.write start data = .error cause) (other : Memory) :
    other.write start data = .error cause :=
  write_eq_error_iff.mpr (write_eq_error_iff.mp refused)

theorem exists_base_of_write {start : Int} (written : memory.write start data = .ok next) :
    ∃ base : Nat, start = base :=
  Int.eq_ofNat_of_zero_le (write_eq_ok_iff.mp written).1.1

theorem write_then_write_same (memory : Memory) (start : Int)
    (sameLength : data.length = otherData.length) :
    (memory.write start data >>= fun next => next.write start otherData) =
      memory.write start otherData := by
  rcases written : memory.write start data with cause | next
  · rw [write_eq_error_iff, sameLength] at written
    exact (write_eq_error_iff.mpr written).symm
  · rcases exists_base_of_write written with ⟨base, rfl⟩
    exact write_of_write written sameLength

/-- Two writes of which not both are refused can be exchanged if their ranges do not meet. -/
theorem write_then_write_comm (memory : Memory) {start otherStart : Int}
    (apart : Apart start data.length otherStart otherData.length)
    (inside : InRange start data.length ∨ InRange otherStart otherData.length) :
    (memory.write start data >>= fun next => next.write otherStart otherData) =
      (memory.write otherStart otherData >>= fun next => next.write start data) := by
  rcases first : memory.write start data with cause | left
  · rcases second : memory.write otherStart otherData with otherCause | right
    · rw [write_eq_error_iff] at first second
      exact absurd inside (not_or.mpr ⟨first.1, second.1⟩)
    · exact (write_refused first right).symm
  · rcases second : memory.write otherStart otherData with otherCause | right
    · exact write_refused second left
    · rcases exists_base_of_write first with ⟨base, rfl⟩
      rcases exists_base_of_write second with ⟨otherBase, rfl⟩
      rcases left.exists_write_of_inside (inside_of_write second) with ⟨leftRight, thenSecond⟩
      rcases right.exists_write_of_inside (inside_of_write first) with ⟨rightLeft, thenFirst⟩
      have same := eq_of_disjoint_writes apart first thenSecond second thenFirst
      exact thenSecond.trans (same ▸ thenFirst.symm)

/-- In whatever order writes to ranges that do not meet are made, they end in the same memory or
not at all. -/
theorem write_then_write_eq_ok_iff (memory : Memory) {start otherStart : Int} {final : Memory}
    (apart : Apart start data.length otherStart otherData.length) :
    (memory.write start data >>= fun next => next.write otherStart otherData) = .ok final ↔
      (memory.write otherStart otherData >>= fun next => next.write start data) = .ok final := by
  by_cases inside : InRange start data.length ∨ InRange otherStart otherData.length
  · rw [memory.write_then_write_comm apart inside]
  · rcases not_or.mp inside with ⟨outside, otherOutside⟩
    rw [write_eq_error_iff.mpr ⟨outside, rfl⟩, write_eq_error_iff.mpr ⟨otherOutside, rfl⟩]
    constructor <;> intro <;> contradiction

theorem read_one_eq_map_readByte (memory : Memory) (start : Int) :
    memory.read start 1 = (memory.readByte start).map ([·]) := by
  rw [read, readByte]
  split
  · simp [slice, Except.map]
  · rfl

/-- A write is refused unless its range lies in memory, and otherwise puts its data there and keeps
every other byte; a read is refused likewise, and otherwise gives the bytes of its range. So reading
a range and writing it back changes nothing, a second write to a range hides the first, writes to
ranges that do not meet can be exchanged (if both are refused, the first one is reported), and
reading a byte is reading a range of length one. -/
theorem reads_and_writes_agree :
    (∀ (memory : Memory) (start : Int) (data : List UInt8),
      if 0 ≤ start ∧ start + data.length ≤ 4096 then
        ∃ next, memory.write start data = .ok next ∧ next.Holds start.toNat data ∧
          ∀ address : Nat, ¬(start ≤ address ∧ address < start + data.length) →
            next.byte address = memory.byte address
      else memory.write start data = .error (.memoryAccess start data.length)) ∧
    (∀ (memory : Memory) (start length : Int),
      if 0 ≤ start ∧ 0 ≤ length ∧ start + length ≤ 4096 then
        ∃ data, memory.read start length = .ok data ∧ data.length = length ∧
          memory.Holds start.toNat data
      else memory.read start length = .error (.memoryAccess start length)) ∧
    (∀ (memory : Memory) (start length : Int) (data : List UInt8),
      memory.read start length = .ok data → memory.write start data = .ok memory) ∧
    (∀ (memory : Memory) (start : Int) (first second : List UInt8), first.length = second.length →
      (memory.write start first >>= fun next => next.write start second) =
        memory.write start second) ∧
    (∀ (memory : Memory) (start otherStart : Int) (data otherData : List UInt8),
      Apart start data.length otherStart otherData.length →
        (∀ final,
          (memory.write start data >>= fun next => next.write otherStart otherData) = .ok final ↔
            (memory.write otherStart otherData >>= fun next => next.write start data) =
              .ok final) ∧
        (InRange start data.length ∨ InRange otherStart otherData.length →
          (memory.write start data >>= fun next => next.write otherStart otherData) =
            (memory.write otherStart otherData >>= fun next => next.write start data))) ∧
    ∀ (memory : Memory) (start : Int),
      memory.read start 1 = (memory.readByte start).map ([·]) := by
  refine ⟨?_, ?_, ?_, ?_, ?_, read_one_eq_map_readByte⟩
  · intro memory start data
    split
    · rename_i inside
      rcases Int.eq_ofNat_of_zero_le inside.1 with ⟨base, rfl⟩
      have fits : base + data.length ≤ 4096 := by omega
      rcases memory.exists_write_of_inside fits with ⟨next, written⟩
      refine ⟨next, written, holds_of_write written, ?_⟩
      intro address outside
      exact byte_of_write written (by omega)
    · apply write_eq_error_iff.mpr
      refine ⟨?_, rfl⟩
      simp only [InRange]
      omega
  · intro memory start length
    split
    · rename_i inside
      refine ⟨_, read_eq_ok_iff.mpr ⟨inside, rfl⟩, ?_, memory.holds_slice _ _⟩
      rw [length_slice]
      omega
    · exact read_eq_error_iff.mpr ⟨‹_›, rfl⟩
  · intro memory start length data found
    rcases read_eq_ok_iff.mp found with ⟨inside, rfl⟩
    rcases Int.eq_ofNat_of_zero_le inside.1 with ⟨base, rfl⟩
    exact write_slice (by simp only [InRange] at inside; omega)
  · intro memory start first second sameLength
    exact memory.write_then_write_same start sameLength
  · intro memory start otherStart data otherData apart
    constructor
    · intro final
      exact memory.write_then_write_eq_ok_iff apart
    · intro inside
      exact memory.write_then_write_comm apart inside

/-- At the end of memory: a digit is written back, a second write hides the first, a write in front
of another can be exchanged with it, and even an empty range must not begin behind the end. -/
theorem lastBytes_agree :
    powerOn.write 4097 [] = .error (.memoryAccess 4097 0) ∧
      (powerOn.read 0x50 5 = .ok [0xF0, 0x90, 0x90, 0x90, 0xF0] ∧
        powerOn.write 0x50 [0xF0, 0x90, 0x90, 0x90, 0xF0] = .ok powerOn) ∧
      ([(1 : UInt8), 2].length = [(3 : UInt8), 4].length ∧
        (powerOn.write 0xFFE [1, 2] >>= fun next => next.write 0xFFE [3, 4]) =
          powerOn.write 0xFFE [3, 4]) ∧
      (Apart 0xFFE [(1 : UInt8), 2].length 0xFFD [(3 : UInt8)].length ∧
        InRange 0xFFE [(1 : UInt8), 2].length ∧
        (powerOn.write 0xFFE [1, 2] >>= fun next => next.write 0xFFD [3]) =
          (powerOn.write 0xFFD [3] >>= fun next => next.write 0xFFE [1, 2])) := by
  rcases reads_and_writes_agree with ⟨write_law, _, writeBack, hide, exchange, _⟩
  have digit : powerOn.read 0x50 5 = .ok [0xF0, 0x90, 0x90, 0x90, 0xF0] :=
    read_eq_ok_iff.mpr ⟨by decide, by decide +kernel⟩
  have apart : Apart 0xFFE [(1 : UInt8), 2].length 0xFFD [(3 : UInt8)].length := by
    rintro address ⟨⟨above, _⟩, _, below⟩
    simp at below
    omega
  have inside : InRange 0xFFE [(1 : UInt8), 2].length := by decide
  refine ⟨?_, ⟨digit, writeBack _ _ _ _ digit⟩, ⟨rfl, hide _ _ _ _ rfl⟩, apart, inside, ?_⟩
  · simpa using write_law powerOn 4097 []
  · exact (exchange _ _ _ _ _ apart).2 (.inl inside)

end Memory

end Chip8
