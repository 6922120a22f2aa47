import Chip8.Session.Event
import Chip8.System

/-!
# Sessions

A session runs one program and can restart it. It keeps the program and the seed's key, counts the
completed cycles, and writes what happens into a journal through its logger. The first fault stops
it: from then on every cycle is refused, until a reset boots the program again.

Operations that can fail return the session they leave behind together with their result, because a
failing one leaves traces too: the recorded fault and the messages about it.
-/

namespace Chip8

/-- A program that is being run. -/
structure Session where
  program : List UInt8
  key : WordPair
  cyclesPerFrame : Nat
  system : System
  logger : Logger
  /-- The present time, in eighths of a second. -/
  now : Int
  /-- No cycle has been tried since the program was booted. -/
  isInitial : Bool
  /-- The number of cycles completed since the program was booted. -/
  cyclesRun : Nat
  fault : Option Fault
  journal : List Entry
  cyclesPerFrame_pos : 0 < cyclesPerFrame

namespace Session

def processorRate : Nat := 1000

def timerRate : Nat := 60

/-- What a session is started with. -/
structure Settings where
  /-- The bytes of the program, which are checked. -/
  program : List Int
  seed : Int := 0
  source : RandomSource := .generator
  cyclesPerFrame : Int := processorRate / timerRate
  logger : Logger

def loggerName : String := "Session"

/-- The logger of a session for which none is given: warnings and worse, with stamps. -/
def standardLogger (now : Int) : Logger where
  name := loggerName
  level := .warning
  colored := false
  stamped := true
  started := now

def record (session : Session) (event : Event) : Session :=
  { session with journal := session.journal ++ event.entries session.logger session.now }

/-- Accepts an integer of a program image that is a byte. -/
def programByte (value : Int) : Except Misuse UInt8 :=
  if 0 ≤ value ∧ value < 256 then .ok (UInt8.ofInt value) else .error (.notAByte value)

/-- Starts a session. The number of cycles in a frame is checked first, then the bytes of the
program, the seed, and whether the program fits into memory. -/
def start (settings : Settings) (now : Int) : Except Error Session :=
  if positive : 0 < settings.cyclesPerFrame then do
    let program ← (settings.program.mapM programByte).mapError .misuse
    let key ← (Threefry.ofSeed settings.seed).mapError .misuse
    let machine ← (Machine.boot key program).mapError .fault
    let session : Session :=
      { program
        key
        cyclesPerFrame := settings.cyclesPerFrame.toNat
        system := ⟨machine, settings.source⟩
        logger := settings.logger
        now
        isInitial := true
        cyclesRun := 0
        fault := none
        journal := []
        cyclesPerFrame_pos := by omega }
    return session.record (.loaded program.length)
  else .error (.misuse (.cyclesPerFrame settings.cyclesPerFrame))

def setTime (session : Session) (now : Int) : Session :=
  { session with now }

def isDirty (session : Session) : Bool :=
  session.system.machine.display.dirty

def clearDirty (session : Session) : Session :=
  { session with system := session.system.clearDirty }

/-- Tries a cycle once its opcode has been fetched, which is announced. -/
def attemptFetched (session : Session) (stimulus : Stimulus) :
    Except Fault UInt16 → Session × Except Fault System
  | .ok opcode =>
      (session.record (.instruction session.system.machine.pc.toNat opcode.toNat),
        session.system.cycle stimulus)
  | .error cause => (session, .error cause)

/-- Tries a cycle of the machine. A logger that wants to see every instruction sees this one as soon
as it has been fetched. -/
def attempt (session : Session) (stimulus : Stimulus) : Session × Except Fault System :=
  if session.logger.accepts .debug then
    session.attemptFetched stimulus session.system.machine.fetch
  else (session, session.system.cycle stimulus)

/-- Runs a cycle. A fault is recorded and the machine stays as it was. -/
def cycle (session : Session) (stimulus : Stimulus) : Session × Except Error Unit :=
  match session.fault with
  | some cause => (session, .error (.halted cause))
  | none =>
      match { session with isInitial := false }.attempt stimulus with
      | (tried, .ok system) =>
          ({ tried with system, cyclesRun := tried.cyclesRun + 1 }, .ok ())
      | (tried, .error cause) =>
          ({ tried with fault := some cause }.record (.stopped cause.message tried.system.machine),
            .error (.fault cause))

/-- Runs a cycle for each stimulus up to the first error. -/
def run (session : Session) : List Stimulus → Session × Except Error Unit
  | [] => (session, .ok ())
  | stimulus :: rest =>
      match session.cycle stimulus with
      | (next, .ok ()) => next.run rest
      | (next, .error error) => (next, .error error)

/-- Runs a number of cycles with the same stimulus up to the first error. -/
def runFor (session : Session) (stimulus : Stimulus) : Nat → Session × Except Error Unit
  | 0 => (session, .ok ())
  | count + 1 =>
      match session.cycle stimulus with
      | (next, .ok ()) => next.runFor stimulus count
      | (next, .error error) => (next, .error error)

/-- Boots the program again, and starts its source of random bytes over if that is possible. -/
def reset (session : Session) : Session × Except Error Unit :=
  let reported := session.record (.reset session.cyclesRun)
  let source := session.system.source.rewind
  match Machine.boot session.key session.program with
  | .ok machine =>
      ({ reported with
        system := ⟨machine, source⟩, isInitial := true, cyclesRun := 0, fault := none }, .ok ())
  | .error cause => ({ reported with system.source := source }, .error (.fault cause))

end Session

end Chip8
