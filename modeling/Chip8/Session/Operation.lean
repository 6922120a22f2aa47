import Chip8.Session.Frames

/-!
# Driving a session

A host drives a session through a few operations: it runs cycles and frames, acknowledges what has
been drawn, and resets. The clock that stamps the messages moves between them. An operation leaves a
session behind whether it succeeds or not, so a host can go on after an error.
-/

namespace Chip8

/-- Something that a host does with a session. -/
inductive Operation where
  | cycle (stimulus : Stimulus)
  | frame (input : Input)
  | frames (input : Input) (count : Int)
  | clearDirty
  | setTime (now : Int)
  | reset

/-- What an operation that succeeds tells the host. -/
inductive Answer where
  | done
  | drew (drew : Bool)
  | drawn (count : Nat)
  deriving DecidableEq, Repr

namespace Session

def perform (session : Session) : Operation → Session × Except Error Answer
  | .cycle stimulus => (session.cycle stimulus).map id (Except.map fun _ => .done)
  | .frame input => (session.runFrame input).map id (Except.map .drew)
  | .frames input count => (session.runFrames input count).map id (Except.map .drawn)
  | .clearDirty => (session.clearDirty, .ok .done)
  | .setTime now => (session.setTime now, .ok .done)
  | .reset => session.reset.map id (Except.map fun _ => .done)

/-- The session after a host has carried out operations, some of which may have failed. -/
def after (session : Session) : List Operation → Session
  | [] => session
  | operation :: rest => (session.perform operation).1.after rest

end Session

end Chip8
