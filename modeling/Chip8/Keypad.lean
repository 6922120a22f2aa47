import Chip8.Word

/-!
# The keypad

Sixteen keys, numbered from 0x0 to 0xF. A `Keypad` is what a host keeps: which keys are held and
which of them was pressed last. The machine sees less of it: an `Input` says whether a key is down
and which key to report to a program that waits for one. An input need not come from a keypad, so
the key that it reports may be any integer.
-/

namespace Chip8

open Numeral

abbrev Key := Fin 16

namespace Key

/-- The key of a number that a host gives. -/
def ofInteger (number : Int) : Except Fault Key :=
  if inside : 0 ≤ number ∧ number < 16 then .ok ⟨number.toNat, Word.toNat_lt_sixteen inside⟩
  else .error (.invalidKey number)

theorem ofInteger_eq_ok_iff {number : Int} {key : Key} :
    ofInteger number = .ok key ↔ number = key.val := by
  rw [ofInteger]
  split
  · simp only [Except.ok.injEq, Fin.ext_iff]
    omega
  · simp only [reduceCtorEq, false_iff]
    omega

theorem ofInteger_eq_error_iff {number : Int} {fault : Fault} :
    ofInteger number = .error fault ↔
      ¬(0 ≤ number ∧ number < 16) ∧ fault = .invalidKey number := by
  rw [ofInteger]
  split <;> simp_all [eq_comm]

theorem exists_of_inside {number : Int} (inside : 0 ≤ number ∧ number < 16) :
    ∃ key : Key, number = key.val :=
  ⟨⟨number.toNat, Word.toNat_lt_sixteen inside⟩, (Int.toNat_of_nonneg inside.1).symm⟩

end Key

/-- What a running machine can ask about keys. -/
structure Input where
  isDown : Key → Bool
  /-- The key to report to a program that waits for one. -/
  reported : Option Int

namespace Input

def none : Input :=
  ⟨fun _ => false, .none⟩

end Input

/-- The keys that a host holds down. -/
structure Keypad where
  held : Vector Bool 16
  latest : Option Key
  deriving DecidableEq, Repr

namespace Keypad

def count : Nat := 16

def empty : Keypad :=
  ⟨Vector.replicate 16 false, none⟩

/-- Holds a key down, which makes it the latest. -/
def press (keypad : Keypad) (key : Key) : Keypad :=
  ⟨keypad.held.set key true, some key⟩

/-- Lets a key go; if it was the latest, there is no latest key any more. -/
def release (keypad : Keypad) (key : Key) : Keypad :=
  ⟨keypad.held.set key false, if keypad.latest = some key then none else keypad.latest⟩

def releaseAll (_keypad : Keypad) : Keypad :=
  empty

def isDown (keypad : Keypad) (key : Key) : Bool :=
  keypad.held[key]

@[simp]
theorem isDown_empty (key : Key) : empty.isDown key = false := by
  simp [isDown, empty]

theorem isDown_press (keypad : Keypad) (pressed key : Key) :
    (keypad.press pressed).isDown key = (decide (pressed = key) || keypad.isDown key) := by
  by_cases same : pressed.val = key.val <;>
    simp [isDown, press, Fin.ext_iff, same]

theorem isDown_release (keypad : Keypad) (released key : Key) :
    (keypad.release released).isDown key = (!decide (released = key) && keypad.isDown key) := by
  by_cases same : released.val = key.val <;>
    simp [isDown, release, Fin.ext_iff, same]

def heldKeys (keypad : Keypad) : List Key :=
  (List.finRange 16).filter keypad.isDown

/-- The latest key if it is still held, and otherwise the lowest key that is. -/
def reported (keypad : Keypad) : Option Key :=
  keypad.latest.or keypad.heldKeys.head?

def toInput (keypad : Keypad) : Input :=
  ⟨keypad.isDown, keypad.reported.map fun key => (key.val : Int)⟩

/-- Changes the key of a number, and tells whether there is such a key. The keypad that is left is
given in either case. -/
def changeNumber (keypad : Keypad) (change : Keypad → Key → Keypad) (number : Int) :
    Keypad × Except Fault Unit :=
  match Key.ofInteger number with
  | .ok key => (change keypad key, .ok ())
  | .error cause => (keypad, .error cause)

def pressNumber (keypad : Keypad) (number : Int) : Keypad × Except Fault Unit :=
  keypad.changeNumber press number

def releaseNumber (keypad : Keypad) (number : Int) : Keypad × Except Fault Unit :=
  keypad.changeNumber release number

def isDownNumber (keypad : Keypad) (number : Int) : Except Fault Bool :=
  (Key.ofInteger number).map keypad.isDown

theorem changeNumber_key (keypad : Keypad) (change : Keypad → Key → Keypad) (key : Key) :
    keypad.changeNumber change key.val = (change keypad key, .ok ()) := by
  rw [changeNumber, Key.ofInteger_eq_ok_iff.mpr rfl]

theorem changeNumber_of_outside (keypad : Keypad) (change : Keypad → Key → Keypad) {number : Int}
    (outside : ¬(0 ≤ number ∧ number < 16)) :
    keypad.changeNumber change number = (keypad, .error (.invalidKey number)) := by
  rw [changeNumber, Key.ofInteger_eq_error_iff.mpr ⟨outside, rfl⟩]

/-- Presses keys one after another. There is no keypad if one of the numbers is no key's. -/
def pressAll (keypad : Keypad) : List Int → Except Fault Keypad
  | [] => .ok keypad
  | number :: rest =>
      match keypad.pressNumber number with
      | (pressed, .ok _) => pressed.pressAll rest
      | (_, .error cause) => .error cause

def ofNumbers (numbers : List Int) : Except Fault Keypad :=
  empty.pressAll numbers

/-- The keypad as a dump writes it, with the digits of the keys that are held. -/
def describe (keypad : Keypad) : String :=
  "Keypad([" ++ String.intercalate " " (keypad.heldKeys.map fun key => hex 0 key.val) ++ "])"

end Keypad

end Chip8
