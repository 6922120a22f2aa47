import Chip8.Proofs.Session.Cadence

/-!
# What happens to a session

Operations come down to cycles and resets. A cycle is completed, faults, or is refused because the
session has been stopped; a reset reports the cycles that have been counted. So what operations do
to a session is told by a list of incidents, and what a session holds can be compared with what has
happened to it: a `Chronicle` is a relation between the two that every incident keeps.
-/

namespace Chip8

/-- What becomes of a cycle that a session is asked for, or a reset. -/
inductive Incident where
  /-- The machine was in this state and completed a cycle. -/
  | completed (machine : Machine)
  /-- The machine was in this state and faulted. -/
  | faulted (machine : Machine) (cause : Fault)
  /-- The session had been stopped, and tried nothing. -/
  | refused
  /-- A reset was asked for, and reported this number of cycles. -/
  | restarted (reported : Nat)
  deriving DecidableEq, Repr

namespace Session

variable {session : Session} {stimulus : Stimulus} {cause : Fault} {past : List Incident}

/-- What becomes of a cycle, by what it answers. -/
def incident (session : Session) (stimulus : Stimulus) : Incident :=
  match (session.cycle stimulus).2 with
  | .ok () => .completed session.system.machine
  | .error (.fault cause) => .faulted session.system.machine cause
  | .error _ => .refused

/-- What becomes of the cycles of a run, which ends at the first one that fails. -/
def runIncidents (session : Session) : List Stimulus → List Incident
  | [] => []
  | stimulus :: rest =>
      session.incident stimulus ::
        match session.cycle stimulus with
        | (next, .ok ()) => next.runIncidents rest
        | (_, .error _) => []

def performIncidents (session : Session) : Operation → List Incident
  | .cycle stimulus => [session.incident stimulus]
  | .frame input =>
      session.runIncidents (cadence session.cyclesPerFrame input session.cyclesPerFrame)
  | .frames input count =>
      session.runIncidents
        (cadence session.cyclesPerFrame input (count.toNat * session.cyclesPerFrame))
  | .clearDirty | .setTime _ => []
  | .reset => [.restarted session.cyclesRun]

/-- All that happens while a host carries out operations. -/
def incidents (session : Session) : List Operation → List Incident
  | [] => []
  | operation :: rest =>
      session.performIncidents operation ++ (session.perform operation).1.incidents rest

/-- A relation between a session and what has happened to it that goes on to hold. -/
structure Chronicle (Kept : Session → List Incident → Prop) : Prop where
  complete : ∀ {session past system stimulus}, Kept session past → session.fault = none →
    session.system.cycle stimulus = .ok system →
      Kept (session.complete system) (past ++ [.completed session.system.machine])
  halt : ∀ {session past cause stimulus}, Kept session past → session.fault = none →
    session.system.cycle stimulus = .error cause →
      Kept (session.halt cause) (past ++ [.faulted session.system.machine cause])
  refuse : ∀ {session past}, Kept session past → Kept session (past ++ [.refused])
  clearDirty : ∀ {session past}, Kept session past → Kept session.clearDirty past
  setTime : ∀ {session past}, Kept session past → ∀ now, Kept (session.setTime now) past
  reset : ∀ {session past}, Kept session past →
    Kept session.reset.1 (past ++ [.restarted session.cyclesRun])

namespace Chronicle

variable {Kept : Session → List Incident → Prop}

theorem cycle (chronicle : Chronicle Kept) (kept : Kept session past) (stimulus : Stimulus) :
    Kept (session.cycle stimulus).1 (past ++ [session.incident stimulus]) := by
  rw [incident]
  rcases halted : session.fault with _ | cause
  · rcases stepped : session.system.cycle stimulus with cause | system
    · rw [cycle_of_faulted halted stepped]
      exact chronicle.halt kept halted stepped
    · rw [cycle_of_completed halted stepped]
      exact chronicle.complete kept halted stepped
  · rw [cycle_of_halted halted]
    exact chronicle.refuse kept

theorem run (chronicle : Chronicle Kept) (kept : Kept session past) (stimuli : List Stimulus) :
    Kept (session.run stimuli).1 (past ++ session.runIncidents stimuli) := by
  induction stimuli generalizing session past with
  | nil => simpa [runIncidents, Session.run] using kept
  | cons stimulus rest ih =>
      have cycled := chronicle.cycle kept stimulus
      rw [runIncidents, Session.run, List.append_cons]
      rcases result : session.cycle stimulus with ⟨next, error | done⟩
      · simpa [result] using cycled
      · rw [result] at cycled
        exact ih cycled

theorem perform (chronicle : Chronicle Kept) (kept : Kept session past) (operation : Operation) :
    Kept (session.perform operation).1 (past ++ session.performIncidents operation) := by
  cases operation with
  | cycle stimulus => exact chronicle.cycle kept stimulus
  | frame input =>
      have ran := chronicle.run kept
        (cadence session.cyclesPerFrame input session.cyclesPerFrame)
      rw [← effect_runFrame] at ran
      exact ran
  | frames input count =>
      have ran := chronicle.run kept
        (cadence session.cyclesPerFrame input (count.toNat * session.cyclesPerFrame))
      rw [← session.effect_countFrames input 0] at ran
      exact ran
  | clearDirty => simpa [performIncidents, Session.perform] using chronicle.clearDirty kept
  | setTime now => simpa [performIncidents, Session.perform] using chronicle.setTime kept now
  | reset => exact chronicle.reset kept

/-- What holds of a session and its past holds behind operations, with what has happened then. -/
theorem after (chronicle : Chronicle Kept) (kept : Kept session past)
    (operations : List Operation) :
    Kept (session.after operations) (past ++ session.incidents operations) := by
  induction operations generalizing session past with
  | nil => simpa [incidents, Session.after] using kept
  | cons operation rest ih =>
      rw [incidents, ← List.append_assoc]
      exact ih (chronicle.perform kept operation)

end Chronicle

end Session

end Chip8
