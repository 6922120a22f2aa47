import Chip8.Overlay
import Chip8.Word

/-!
# General registers

There are sixteen byte registers, V0 to VF. VF doubles as the flag that arithmetic and drawing set.
An instruction names a register by four bits, so its `Register` always exists; only a host can name
one that does not.
-/

namespace Chip8

abbrev Register := Fin 16

structure RegisterFile where
  values : Vector UInt8 16
  deriving DecidableEq, Repr

namespace RegisterFile

def count : Nat := 16

def firstRegister : Register := ⟨0, by decide⟩

def flagRegister : Register := ⟨15, by decide⟩

def powerOn : RegisterFile :=
  ⟨Vector.replicate 16 0⟩

def get (registers : RegisterFile) (register : Register) : UInt8 :=
  registers.values[register]

def set (registers : RegisterFile) (register : Register) (value : UInt8) : RegisterFile :=
  ⟨registers.values.set register value⟩

def setFlag (registers : RegisterFile) (value : UInt8) : RegisterFile :=
  registers.set flagRegister value

def through (registers : RegisterFile) (last : Register) : List UInt8 :=
  registers.values.toList.take (last + 1)

/-- The values of V0 up to and including the register of an index that a host gives. -/
def throughIndex (registers : RegisterFile) (index : Int) : Except Fault (List UInt8) :=
  if inside : 0 ≤ index ∧ index < 16 then
    .ok (registers.through ⟨index.toNat, Word.toNat_lt_sixteen inside⟩)
  else .error (.registerIndex index)

/-- Replaces the registers from V0 on, as far as the values and the registers reach. -/
def fill (registers : RegisterFile) (values : List UInt8) : RegisterFile :=
  ⟨overlay registers.values 0 values⟩

/-- Replaces the registers from V0 on, if there are enough of them; the fault names the last
register that would be needed. -/
def load (registers : RegisterFile) (values : List UInt8) : Except Fault RegisterFile :=
  if values.length ≤ 16 then .ok (registers.fill values)
  else .error (.registerIndex (values.length - 1))

@[ext]
theorem ext {left right : RegisterFile}
    (same : ∀ register, left.get register = right.get register) : left = right := by
  obtain ⟨leftValues⟩ := left
  obtain ⟨rightValues⟩ := right
  congr 1
  apply Vector.ext
  intro index inside
  exact same ⟨index, inside⟩

theorem get_set (registers : RegisterFile) (target : Register) (value : UInt8)
    (register : Register) :
    (registers.set target value).get register =
      if target = register then value else registers.get register := by
  simp only [get, set, Fin.getElem_fin, Vector.getElem_set, Fin.ext_iff]

theorem get_fill (registers : RegisterFile) (values : List UInt8) (register : Register) :
    (registers.fill values).get register = values[register.val]?.getD (registers.get register) := by
  simp only [get, fill, Fin.getElem_fin, getElem_overlay registers.values 0 values _ register.isLt]
  simp

@[simp]
theorem length_through (registers : RegisterFile) (last : Register) :
    (registers.through last).length = last.val + 1 := by
  simp only [through, List.length_take, Vector.length_toList]
  omega

@[simp]
theorem throughIndex_val (registers : RegisterFile) (last : Register) :
    registers.throughIndex last.val = .ok (registers.through last) := by
  have inside : (0 : Int) ≤ last.val ∧ (last.val : Int) < 16 := by omega
  simp only [throughIndex, dif_pos inside, Int.toNat_natCast]

theorem load_of_length_le {registers : RegisterFile} {values : List UInt8}
    (enough : values.length ≤ 16) : registers.load values = .ok (registers.fill values) := by
  rw [load, if_pos enough]

end RegisterFile

end Chip8
