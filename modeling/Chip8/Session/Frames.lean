import Chip8.Session.Basic

/-!
# Frames

A frame is the cycles between two ticks of the timers. The timers tick in the first cycle of a
frame; the frame counts as drawn if any of its cycles draws. A failing cycle ends the frame and all
frames after it.
-/

namespace Chip8

namespace Session

/-- Runs cycles in a row, of which only the first may tick, and tells whether any of them drew;
`drew` says whether an earlier one did. -/
def burst (session : Session) (input : Input) (tick drew : Bool) :
    Nat → Session × Except Error Bool
  | 0 => (session, .ok drew)
  | count + 1 =>
      match session.cycle ⟨tick, input⟩ with
      | (next, .ok ()) => next.burst input false (drew || next.isDirty) count
      | (next, .error error) => (next, .error error)

/-- Runs one frame, and tells whether it drew. -/
def runFrame (session : Session) (input : Input) : Session × Except Error Bool :=
  session.burst input true false session.cyclesPerFrame

/-- Runs frames in a row, and adds the number of those that drew to `drawn`. -/
def countFrames (session : Session) (input : Input) (drawn : Nat) :
    Nat → Session × Except Error Nat
  | 0 => (session, .ok drawn)
  | count + 1 =>
      match session.runFrame input with
      | (next, .ok drew) => next.countFrames input (if drew then drawn + 1 else drawn) count
      | (next, .error error) => (next, .error error)

/-- Runs a number of frames, none if it is negative, and tells how many of them drew. -/
def runFrames (session : Session) (input : Input) (count : Int) : Session × Except Error Nat :=
  session.countFrames input 0 count.toNat

end Session

end Chip8
