import Mathlib.Data.List.DropRight
import Chip8.Proofs.Session.Restart
import Chip8.Proofs.Session.Messages

/-!
# The books of a session

A session counts its completed cycles and remembers whether a cycle has been tried and what has
stopped it. These entries agree with what has happened since the last reset, however cycles, faults,
refusals, frames and resets are mixed. The count is not lost in a reset either: the counts that
resets report and the present one add up to all cycles that were ever completed.
-/

namespace Chip8

namespace Incident

@[simp]
def isCompleted : Incident → Bool
  | .completed _ => true
  | _ => false

@[simp]
def cause? : Incident → Option Fault
  | .faulted _ cause => some cause
  | _ => none

@[simp]
def reported? : Incident → Option Nat
  | .restarted reported => some reported
  | _ => none

end Incident

/-- What has happened since the last reset, or ever if there was none. -/
def sinceRestart (past : List Incident) : List Incident :=
  past.rtakeWhile fun incident => incident.reported?.isNone

@[simp]
theorem sinceRestart_concat (past : List Incident) (incident : Incident) :
    sinceRestart (past ++ [incident]) =
      if incident.reported?.isNone then sinceRestart past ++ [incident] else [] :=
  List.rtakeWhile_concat _ _ _

namespace Session

/-- What a session has noted down agrees with what has happened to it. -/
structure BooksAgree (session : Session) (past : List Incident) : Prop where
  isInitial_iff : session.isInitial = true ↔ session.cyclesRun = 0 ∧ session.fault = none
  cyclesRun_eq : session.cyclesRun = (sinceRestart past).countP Incident.isCompleted
  /-- The recorded fault is the first one since the last reset, and the only one. -/
  faults_eq : (sinceRestart past).filterMap Incident.cause? = session.fault.toList
  total_eq : (past.filterMap Incident.reported?).sum + session.cyclesRun =
    past.countP Incident.isCompleted

namespace BooksAgree

variable {session : Session} {past : List Incident}

theorem of_booted (fresh : session.isInitial = true) (uncounted : session.cyclesRun = 0)
    (running : session.fault = none) (nothing : sinceRestart past = [])
    (total : (past.filterMap Incident.reported?).sum = past.countP Incident.isCompleted) :
    session.BooksAgree past := by
  constructor
  · simp [fresh, uncounted, running]
  · simp [uncounted, nothing]
  · simp [running, nothing]
  · simp [uncounted, total]

theorem complete (agree : session.BooksAgree past) (system : System) :
    (session.complete system).BooksAgree (past ++ [.completed session.system.machine]) := by
  rcases agree with ⟨_, counted, faults, total⟩
  constructor
  · simp [Session.complete]
  · simpa [Session.complete] using counted
  · simpa [Session.complete, List.filterMap_cons] using faults
  · simp [Session.complete, List.filterMap_cons, ← total, Nat.add_assoc]

theorem halt (agree : session.BooksAgree past) (running : session.fault = none) (cause : Fault) :
    (session.halt cause).BooksAgree (past ++ [.faulted session.system.machine cause]) := by
  rcases agree with ⟨_, counted, faults, total⟩
  rw [running] at faults
  constructor
  · simp [Session.halt]
  · simpa [Session.halt] using counted
  · simpa [Session.halt, List.filterMap_cons] using faults
  · simpa [Session.halt, List.filterMap_cons] using total

theorem refuse (agree : session.BooksAgree past) : session.BooksAgree (past ++ [.refused]) := by
  rcases agree with ⟨initial, counted, faults, total⟩
  constructor
  · exact initial
  · simpa using counted
  · simpa [List.filterMap_cons] using faults
  · simpa [List.filterMap_cons] using total

theorem reset {settings : Settings} (agree : session.BooksAgree past)
    (startedFrom : session.StartedFrom settings) :
    session.reset.1.BooksAgree (past ++ [.restarted session.cyclesRun]) := by
  rcases startedFrom.reset_eq with ⟨machine, _, _, same⟩
  refine of_booted (congrArg Snapshot.isInitial same) (congrArg Snapshot.cyclesRun same)
    (congrArg Snapshot.fault same) (by simp) ?_
  simpa [List.filterMap_cons] using agree.total_eq

-- A reset clears the books only if it succeeds, which it does as long as the session still has what
-- it was started with. So that is carried along.
theorem chronicle (settings : Settings) :
    Chronicle fun session past => session.StartedFrom settings ∧ session.BooksAgree past where
  complete kept _ completed := ⟨kept.1.complete completed, kept.2.complete _⟩
  halt kept running _ := ⟨kept.1.halt _, kept.2.halt running _⟩
  refuse kept := ⟨kept.1, kept.2.refuse⟩
  clearDirty kept := ⟨kept.1.of_same_arguments rfl rfl rfl rfl, { kept.2 with }⟩
  setTime kept _ := ⟨kept.1.of_same_arguments rfl rfl rfl rfl, { kept.2 with }⟩
  reset kept := ⟨kept.1.reset, kept.2.reset kept.1⟩

theorem of_start {settings : Settings} {now : Int} (started : start settings now = .ok session) :
    session.BooksAgree [] := by
  rcases start_eq_ok_iff.mp started with ⟨_, _, _, ⟨machine, _, same⟩, _⟩
  exact of_booted (congrArg Snapshot.isInitial same) (congrArg Snapshot.cyclesRun same)
    (congrArg Snapshot.fault same) rfl rfl

end BooksAgree

theorem filter_info_announced (address : UInt16) (fetched : Except Fault UInt16) :
    (announced address fetched).filter (fun note => note.1 = .info) = [] := by
  cases fetched with
  | ok opcode => rfl
  | error cause => rfl

theorem filter_info_notes (incident : Incident) :
    incident.notes.filter (fun note => note.1 = .info) =
      incident.reported?.toList.map resetNote := by
  cases incident with
  | completed machine =>
      rw [Incident.notes, filter_info_announced]
      rfl
  | faulted machine cause =>
      rw [Incident.notes, List.filter_append, filter_info_announced]
      rfl
  | refused => rfl
  | restarted reported => rfl

theorem filter_info_flatMap_notes (past : List Incident) :
    (past.flatMap Incident.notes).filter (fun note => note.1 = .info) =
      (past.filterMap Incident.reported?).map resetNote := by
  simp only [List.filter_flatMap, filter_info_notes, List.filterMap_eq_flatMap_toList,
    List.map_flatMap]

theorem filter_info_notes_after {settings : Settings} {now : Int} {session : Session}
    (started : start settings now = .ok session)
    (informative : settings.logger.accepts .info = true) (operations : List Operation) :
    (session.after operations).notes.filter (fun note => note.1 = .info) =
      loadNote session.program.length ::
        ((session.incidents operations).filterMap Incident.reported?).map resetNote := by
  have informed : (fun note : Level × String =>
      decide (note.1 = .info) && settings.logger.accepts note.1) =
        fun note => decide (note.1 = .info) := by
    funext note
    by_cases info : note.1 = .info
    · simp [info, informative]
    · simp [info]
  rw [notes_after started, List.filter_filter, informed, List.filter_cons_of_pos rfl,
    filter_info_flatMap_notes]

/-- Whatever a host does with a session, its books agree with what has happened to it, and the
counts that they are balanced with are those that the messages about resets show. -/
theorem books_agree_after {settings : Settings} {now : Int} {session : Session}
    (started : start settings now = .ok session) (operations : List Operation) :
    (session.after operations).BooksAgree (session.incidents operations) ∧
      (settings.logger.accepts .info = true →
        (session.after operations).notes.filter (fun note => note.1 = .info) =
          loadNote session.program.length ::
            ((session.incidents operations).filterMap Incident.reported?).map resetNote) := by
  have kept := (BooksAgree.chronicle settings).after
    ⟨.of_start started, .of_start started⟩ operations
  exact ⟨kept.2, fun informative => filter_info_notes_after started informative operations⟩

/-- A program that completes one cycle and faults in the next one, with two cycles in a frame. -/
def stumbling : Settings where
  program := [0x60, 0x01, 0xFF, 0xFF]
  cyclesPerFrame := 2
  logger := { standardLogger 0 with level := .info }

/-- A frame that fails, a cycle that is refused, a reset and a cycle. -/
def stumblingOperations : List Operation :=
  [.frame .none, .cycle ⟨false, .none⟩, .reset, .cycle ⟨true, .none⟩]

theorem stumbling_books_agree :
    ∃ session incidents, start stumbling 0 = .ok session ∧
      session.incidents stumblingOperations = incidents ∧
      incidents.filterMap Incident.reported? = [1] ∧ incidents.countP Incident.isCompleted = 2 ∧
      (session.after stumblingOperations).BooksAgree incidents ∧
      stumbling.logger.accepts .info = true ∧
      (session.after stumblingOperations).notes.filter (fun note => note.1 = .info) =
        [loadNote 4, resetNote 1] := by
  have starts : ∃ session, start stumbling 0 = .ok session := ⟨_, rfl⟩
  rcases starts with ⟨session, started⟩
  have counted : session.program.length = 4 ∧
      (session.incidents stumblingOperations).filterMap Incident.reported? = [1] ∧
      (session.incidents stumblingOperations).countP Incident.isCompleted = 2 := by
    cases started
    decide +kernel
  rcases counted with ⟨size, reported, completed⟩
  rcases books_agree_after started stumblingOperations with ⟨agree, told⟩
  have messages := told rfl
  rw [size, reported] at messages
  exact ⟨session, _, started, rfl, reported, completed, agree, rfl, messages⟩

end Session

end Chip8
