import Chip8.Instruction.Basic
import Chip8.Keypad
import Chip8.Machine.Basic

/-!
# What the instructions do

`Machine.perform` is the effect of one instruction on the machine, given what the keypad shows and a
byte for the random instruction to use. An instruction either faults, and then there is no new
state, or does all of its work, including the move of the program counter.
-/

namespace Chip8

namespace Condition

/-- Whether a condition holds. Asking for a key that does not exist is a fault. -/
def test (condition : Condition) (machine : Machine) (input : Input) : Except Fault Bool :=
  let value := machine.registers.get
  match condition with
  | .holds register byte => .ok (value register == byte)
  | .differs register byte => .ok (value register != byte)
  | .same left right => .ok (value left == value right)
  | .distinct left right => .ok (value left != value right)
  | .keyDown register => (Key.ofInteger (value register).toNat).map input.isDown
  | .keyUp register => (Key.ofInteger (value register).toNat).map fun key => !input.isDown key

end Condition

namespace Machine

def setRegister (machine : Machine) (target : Register) (value : UInt8) : Machine :=
  { machine with registers := machine.registers.set target value }

/-- Combines two registers. The flag is set before the result, so the result wins in VF. -/
def combine (machine : Machine) (operation : Arithmetic) (target source : Register) : Machine :=
  let left := machine.registers.get target
  let right := machine.registers.get source
  let flagged :=
    match operation.flag? left right with
    | some flag => machine.registers.setFlag flag.toUInt8
    | none => machine.registers
  { machine with registers := flagged.set target (operation.result left right) }

/-- The decimal digits of a byte, hundreds first. -/
def decimalDigits (value : UInt8) : List UInt8 :=
  [value / 100, value / 10 % 10, value % 10]

def storeAtIndex (machine : Machine) (data : List UInt8) : Except Fault Machine :=
  (machine.memory.write machine.index.toNat data).map fun memory => { machine with memory }

/-- The effect of an instruction. -/
def perform (machine : Machine) (input : Input) (randomByte : UInt8) :
    Instruction → Except Fault Machine
  | .clearScreen => .ok ({ machine with display := machine.display.clear }.advance 2)
  | .returnFromCall =>
      machine.stack.pop.map fun (address, stack) => { machine with stack, pc := address }
  | .jump target => .ok { machine with pc := target }
  | .call target =>
      (machine.stack.push (machine.pc + 2)).map fun stack => { machine with stack, pc := target }
  | .skipIf condition => (condition.test machine input).map machine.skipIf
  | .setByte target byte => .ok ((machine.setRegister target byte).advance 2)
  | .addByte target byte =>
      .ok ((machine.setRegister target (machine.registers.get target + byte)).advance 2)
  | .arithmetic operation target source => .ok ((machine.combine operation target source).advance 2)
  | .setIndex address => .ok ({ machine with index := address }.advance 2)
  | .jumpFrom base =>
      let offset := machine.registers.get RegisterFile.firstRegister
      .ok { machine with pc := base + offset.toUInt16 }
  | .random target mask => .ok ((machine.setRegister target (randomByte &&& mask)).advance 2)
  | .draw column row height =>
      (machine.memory.read machine.index.toNat height.val).map fun sprite =>
        let x := (machine.registers.get column).toNat
        let y := (machine.registers.get row).toNat
        let (display, collision) := machine.display.draw sprite x y
        let registers := machine.registers.setFlag collision.toUInt8
        { machine with display, registers }.advance 2
  | .readDelay target => .ok ((machine.setRegister target machine.delay.value).advance 2)
  | .awaitKey target =>
      match input.reported with
      | none => .ok machine
      | some number =>
          (Key.ofInteger number).map fun (key : Key) =>
            (machine.setRegister target (UInt8.ofNat key.val)).advance 2
  | .setDelay source => .ok ({ machine with delay := ⟨machine.registers.get source⟩ }.advance 2)
  | .setSound source => .ok ({ machine with sound := ⟨machine.registers.get source⟩ }.advance 2)
  | .addToIndex source =>
      .ok ({ machine with
        index := machine.index + (machine.registers.get source).toUInt16 }.advance 2)
  | .pointAtGlyph source =>
      let address := Memory.glyphAddress (machine.registers.get source).toNat
      .ok ({ machine with index := UInt16.ofInt address }.advance 2)
  | .storeDecimal source =>
      (machine.storeAtIndex (decimalDigits (machine.registers.get source))).map (·.advance 2)
  | .storeRegisters last => do
      let values ← machine.registers.throughIndex last.val
      (machine.storeAtIndex values).map (·.advance 2)
  | .loadRegisters last => do
      let values ← machine.memory.read machine.index.toNat (last.val + 1 : Nat)
      let registers ← machine.registers.load values
      return { machine with registers }.advance 2

end Machine

end Chip8
