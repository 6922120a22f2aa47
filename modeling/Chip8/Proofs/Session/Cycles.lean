import Chip8.Proofs.Execution.Effects
import Chip8.Session.Operation

/-!
# What a cycle does to a session

A cycle of a session has three outcomes: its machine completes a cycle, its machine faults, or the
session refuses to try because it has faulted before. Whether the logger announces instructions
makes no difference to which of them it is; the announcement fetches a second time, but that fetch
fails only if the cycle's own fails as well.
-/

namespace Chip8

namespace Machine

/-- What is reported about an opcode that a machine has fetched. -/
def announce (machine : Machine) : Except Fault UInt16 → List Event
  | .ok opcode => [.instruction machine.pc.toNat opcode.toNat]
  | .error _ => []

/-- What is reported before a machine tries a cycle. -/
def announcement (machine : Machine) : List Event :=
  machine.announce machine.fetch

end Machine

namespace Session

variable {session : Session} {stimulus : Stimulus} {cause : Fault}

/-- The entries that some events make in the session's logger. -/
def entries (session : Session) (events : List Event) : List Entry :=
  events.flatMap fun event => event.entries session.logger session.now

/-- The session after its machine has completed a cycle. -/
def complete (session : Session) (system : System) : Session :=
  { session with
    system
    isInitial := false
    cyclesRun := session.cyclesRun + 1
    journal := session.journal ++ session.entries session.system.machine.announcement }

/-- The session after its machine has faulted. -/
def halt (session : Session) (cause : Fault) : Session :=
  { session with
    isInitial := false
    fault := some cause
    journal := session.journal ++ session.entries
      (session.system.machine.announcement ++
        [.stopped cause.message session.system.machine]) }

theorem entries_announce_of_not_accepts (quiet : session.logger.accepts .debug = false)
    (fetched : Except Fault UInt16) :
    session.entries (session.system.machine.announce fetched) = [] := by
  cases fetched with
  | error cause => rfl
  | ok opcode => simp [entries, Machine.announce, Event.entries, Event.level, quiet]

/-- Trying a cycle announces the instruction and gives what the machine gives. -/
theorem attempt_eq (session : Session) (stimulus : Stimulus) :
    session.attempt stimulus =
      ({ session with
          journal := session.journal ++ session.entries session.system.machine.announcement },
        session.system.cycle stimulus) := by
  rw [attempt, Machine.announcement]
  by_cases loud : session.logger.accepts .debug
  · rw [if_pos loud]
    rcases fetched : session.system.machine.fetch with cause | opcode
    · rw [attemptFetched, System.cycle_of_fetch_error fetched]
      simp only [Machine.announce, entries, List.flatMap_nil, List.append_nil]
    · simp only [attemptFetched, Machine.announce, entries, record, List.flatMap_singleton]
  · rw [if_neg loud, entries_announce_of_not_accepts (Bool.eq_false_iff.mpr loud),
      List.append_nil]

theorem cycle_of_completed {system : System} (running : session.fault = none)
    (completed : session.system.cycle stimulus = .ok system) :
    session.cycle stimulus = (session.complete system, .ok ()) := by
  simp only [cycle, running, attempt_eq, completed, complete, entries]

theorem cycle_of_faulted (running : session.fault = none)
    (faulted : session.system.cycle stimulus = .error cause) :
    session.cycle stimulus = (session.halt cause, .error (.fault cause)) := by
  simp only [cycle, running, attempt_eq, faulted, halt, record, entries, List.flatMap_append,
    List.flatMap_singleton, List.append_assoc]

theorem cycle_of_halted (halted : session.fault = some cause) (stimulus : Stimulus) :
    session.cycle stimulus = (session, .error (.halted cause)) := by
  simp only [cycle, halted]

/-- What holds before a cycle holds behind it, if completing a cycle and faulting both keep it. -/
theorem cycle_preserves (Property : Session → Prop) (holds : Property session)
    (complete : ∀ system, session.system.cycle stimulus = .ok system →
      Property (session.complete system))
    (halt : ∀ cause, session.system.cycle stimulus = .error cause →
      Property (session.halt cause)) :
    Property (session.cycle stimulus).1 := by
  rcases halted : session.fault with _ | cause
  · rcases stepped : session.system.cycle stimulus with cause | system
    · rw [cycle_of_faulted halted stepped]
      exact halt cause stepped
    · rw [cycle_of_completed halted stepped]
      exact complete system stepped
  · rw [cycle_of_halted halted]
    exact holds

end Session

end Chip8
