import Chip8.Proofs.Session.Agreement

/-!
# The level of a logger only filters

Two sessions that differ in the level of their loggers answer every operation alike: the level
decides whether an instruction is announced before it is executed, but not what becomes of it. What
the less talkative logger accepts is what the other one accepts and its own level lets through,
event by event and therefore also after any number of operations.
-/

namespace Chip8

namespace Event

theorem severity_of_mem_entries {event : Event} {logger : Logger} {now : Int} {entry : Entry}
    (reported : entry ∈ event.entries logger now) : entry.severity = event.level := by
  rw [entries] at reported
  split at reported
  · rcases List.mem_map.mp reported with ⟨message, _, rfl⟩
    rfl
  · contradiction

/-- A logger with a higher level keeps the entries that reach it. -/
theorem entries_eq_filter {quiet loud : Logger} (coarser : loud.level.rank ≤ quiet.level.rank)
    (event : Event) (now : Int) :
    event.entries quiet now =
      (event.entries loud now).filter fun entry => quiet.accepts entry.severity := by
  by_cases accepted : quiet.accepts event.level
  · have acceptedToo : loud.accepts event.level := by
      simp only [Logger.accepts, decide_eq_true_eq] at accepted ⊢
      omega
    have kept : ∀ entry ∈ event.entries loud now, quiet.accepts entry.severity := by
      intro entry reported
      rw [severity_of_mem_entries reported]
      exact accepted
    rw [List.filter_eq_self.mpr kept, entries, entries, if_pos accepted, if_pos acceptedToo]
  · have dropped : ∀ entry ∈ event.entries loud now, ¬quiet.accepts entry.severity := by
      intro entry reported
      rw [severity_of_mem_entries reported]
      exact accepted
    rw [List.filter_eq_nil_iff.mpr dropped, entries, if_neg accepted]

end Event

namespace Session

/-- The lines that a session has written, each with the level of its message. -/
def lines (session : Session) : List (Level × String) :=
  session.journal.map fun entry => (entry.severity, session.logger.line entry)

def written (session : Session) : String :=
  session.logger.text session.journal

theorem reset_now (session : Session) : session.reset.1.now = session.now := by
  rw [reset]
  cases Machine.boot session.key session.program <;> rfl

theorem reset_logger (session : Session) : session.reset.1.logger = session.logger := by
  rw [reset]
  cases Machine.boot session.key session.program <;> rfl

theorem reset_journal (session : Session) :
    session.reset.1.journal =
      session.journal ++ session.entries [.reset session.cyclesRun] := by
  rw [reset, entries, List.flatMap_singleton]
  cases Machine.boot session.key session.program <;> rfl

/-- A session is like another one, but for a logger that has a higher level. -/
structure Muffles (quiet loud : Session) : Prop where
  snapshot_eq : quiet.snapshot = loud.snapshot
  now_eq : quiet.now = loud.now
  logger_eq : quiet.logger = { loud.logger with level := quiet.logger.level }
  coarser : loud.logger.level.rank ≤ quiet.logger.level.rank
  journal_eq : quiet.journal = loud.journal.filter fun entry => quiet.logger.accepts entry.severity

namespace Muffles

variable {quiet loud : Session}

theorem entries_eq (muffles : quiet.Muffles loud) (events : List Event) :
    quiet.entries events =
      (loud.entries events).filter fun entry => quiet.logger.accepts entry.severity := by
  rw [entries, entries, List.filter_flatMap, muffles.now_eq]
  simp only [← Event.entries_eq_filter muffles.coarser]

theorem append_entries (muffles : quiet.Muffles loud) (events : List Event) :
    quiet.journal ++ quiet.entries events =
      (loud.journal ++ loud.entries events).filter fun entry =>
        quiet.logger.accepts entry.severity := by
  rw [List.filter_append, ← muffles.entries_eq, ← muffles.journal_eq]

theorem cycle (muffles : quiet.Muffles loud) (stimulus : Stimulus) :
    Matching Muffles (quiet.cycle stimulus) (loud.cycle stimulus) := by
  rcases cycle_of_snapshot_eq muffles.snapshot_eq stimulus with ⟨sameSnapshot, sameResult⟩
  refine ⟨?_, sameResult⟩
  have sameFault : quiet.fault = loud.fault := congrArg Snapshot.fault muffles.snapshot_eq
  have sameSystem : quiet.system = loud.system := congrArg Snapshot.system muffles.snapshot_eq
  rcases halted : quiet.fault with _ | cause
  · have running : loud.fault = none := sameFault ▸ halted
    rcases stepped : quiet.system.cycle stimulus with cause | system
    · rw [cycle_of_faulted halted stepped, cycle_of_faulted running (sameSystem ▸ stepped)]
        at sameSnapshot ⊢
      refine ⟨sameSnapshot, muffles.now_eq, muffles.logger_eq, muffles.coarser, ?_⟩
      simp only [halt, sameSystem]
      exact muffles.append_entries _
    · rw [cycle_of_completed halted stepped, cycle_of_completed running (sameSystem ▸ stepped)]
        at sameSnapshot ⊢
      refine ⟨sameSnapshot, muffles.now_eq, muffles.logger_eq, muffles.coarser, ?_⟩
      simp only [complete, sameSystem]
      exact muffles.append_entries _
  · rw [cycle_of_halted halted, cycle_of_halted (sameFault ▸ halted)]
    exact muffles

theorem reset (muffles : quiet.Muffles loud) : Matching Muffles quiet.reset loud.reset := by
  rcases reset_of_snapshot_eq muffles.snapshot_eq with ⟨sameSnapshot, sameResult⟩
  refine ⟨⟨sameSnapshot, ?_, ?_, ?_, ?_⟩, sameResult⟩
  · rw [reset_now, reset_now]
    exact muffles.now_eq
  · rw [reset_logger, reset_logger]
    exact muffles.logger_eq
  · rw [reset_logger, reset_logger]
    exact muffles.coarser
  · have sameCount : quiet.cyclesRun = loud.cyclesRun :=
      congrArg Snapshot.cyclesRun muffles.snapshot_eq
    rw [reset_journal, reset_journal, reset_logger, sameCount]
    exact muffles.append_entries _

theorem simulation : Simulation Muffles where
  cyclesPerFrame_eq muffles := congrArg Snapshot.cyclesPerFrame muffles.snapshot_eq
  cycle := cycle
  isDirty_eq muffles := simulation_snapshot_eq.isDirty_eq muffles.snapshot_eq
  clearDirty muffles :=
    { muffles with snapshot_eq := simulation_snapshot_eq.clearDirty muffles.snapshot_eq }
  setTime muffles _ := { muffles with now_eq := rfl }
  reset := reset

end Muffles

end Session

end Chip8
