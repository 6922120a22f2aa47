import Chip8.Keypad

/-!
# What has been done to a keypad

A host makes a keypad with some keys held, and then presses and releases keys one after another. It
names them by integers; a number that is no key's is refused, and then the keypad is as it was.
Whatever has been done, the latest key is one that is held. So a keypad without a held key reports
none, and a program cannot tell it from no keypad at all.
-/

namespace Chip8

inductive KeyEvent where
  | press (number : Int)
  | release (number : Int)
  | releaseAll
  deriving DecidableEq, Repr

namespace Keypad

/-- The keypad that an event leaves, and whether the event was refused. -/
def respond (keypad : Keypad) : KeyEvent → Keypad × Except Fault Unit
  | .press number => keypad.pressNumber number
  | .release number => keypad.releaseNumber number
  | .releaseAll => (keypad.releaseAll, .ok ())

/-- The keypad after some events, some of which may have been refused. -/
def after (keypad : Keypad) : List KeyEvent → Keypad
  | [] => keypad
  | event :: rest => (keypad.respond event).1.after rest

def LatestHeld (keypad : Keypad) : Prop :=
  ∀ key, keypad.latest = some key → keypad.isDown key = true

/-- No key is held down. -/
def Idle (keypad : Keypad) : Prop :=
  ∀ key, keypad.isDown key = false

variable {keypad next : Keypad}

theorem heldKeys_eq_nil_iff : keypad.heldKeys = [] ↔ keypad.Idle := by
  simp [heldKeys, Idle]

namespace LatestHeld

theorem empty : Keypad.empty.LatestHeld := by
  intro key latest
  contradiction

theorem press (keypad : Keypad) (key : Key) : (keypad.press key).LatestHeld := by
  intro latest isLatest
  obtain rfl : key = latest := by simpa [Keypad.press] using isLatest
  simp [isDown_press]

theorem release (held : keypad.LatestHeld) (key : Key) : (keypad.release key).LatestHeld := by
  intro latest isLatest
  by_cases released : keypad.latest = some key
  · simp [Keypad.release, released] at isLatest
  · have wasLatest : keypad.latest = some latest := by
      simpa [Keypad.release, released] using isLatest
    have other : key ≠ latest := by
      rintro rfl
      exact released wasLatest
    simp [isDown_release, other, held latest wasLatest]

theorem changeNumber (held : keypad.LatestHeld) {change : Keypad → Key → Keypad}
    (changed : ∀ key, (change keypad key).LatestHeld) (number : Int) :
    (keypad.changeNumber change number).1.LatestHeld := by
  rw [Keypad.changeNumber]
  split
  · exact changed _
  · exact held

theorem pressNumber (held : keypad.LatestHeld) (number : Int) :
    (keypad.pressNumber number).1.LatestHeld :=
  held.changeNumber (press keypad) number

theorem respond (held : keypad.LatestHeld) (event : KeyEvent) :
    (keypad.respond event).1.LatestHeld := by
  cases event with
  | press number => exact held.pressNumber number
  | release number => exact held.changeNumber held.release number
  | releaseAll => exact .empty

theorem after (held : keypad.LatestHeld) (events : List KeyEvent) :
    (keypad.after events).LatestHeld := by
  induction events generalizing keypad with
  | nil => exact held
  | cons event rest ih => exact ih (held.respond event)

theorem pressAll (held : keypad.LatestHeld) {numbers : List Int}
    (accepted : keypad.pressAll numbers = .ok next) : next.LatestHeld := by
  induction numbers generalizing keypad with
  | nil =>
      obtain rfl : keypad = next := Except.ok.inj accepted
      exact held
  | cons number rest ih =>
      have pressed := held.pressNumber number
      rw [Keypad.pressAll] at accepted
      split at accepted
      · rename_i first answered
        rw [answered] at pressed
        exact ih pressed accepted
      · contradiction

theorem ofNumbers {numbers : List Int} (accepted : Keypad.ofNumbers numbers = .ok keypad) :
    keypad.LatestHeld :=
  pressAll .empty accepted

theorem latest_eq_none (held : keypad.LatestHeld) (idle : keypad.Idle) : keypad.latest = none := by
  rcases latest : keypad.latest with _ | key
  · rfl
  · have isDown := held key latest
    simp [idle key] at isDown

/-- A keypad without a held key is like no keypad at all. -/
theorem toInput_eq_none (held : keypad.LatestHeld) (idle : keypad.Idle) :
    keypad.toInput = Input.none := by
  have noneHeld : keypad.heldKeys = [] := heldKeys_eq_nil_iff.mpr idle
  have isDown_eq : keypad.isDown = fun _ => false := funext idle
  simp [toInput, Input.none, reported, held.latest_eq_none idle, noneHeld, isDown_eq]

end LatestHeld

end Keypad

end Chip8
