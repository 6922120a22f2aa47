import Chip8.Proofs.Outcome
import Chip8.Proofs.Session.Cycles

/-!
# Sessions side by side

Two sessions are compared operation by operation. A `Simulation` is a relation between sessions that
survives single cycles and the operations that run none, and that makes the answers equal. Frames
are nothing but cycles in a row, so it survives every operation.

One such relation is to hold the same snapshot, which is everything in a session that has nothing to
do with reporting: logger, clock and journal have no influence on what a host gets to see.
-/

namespace Chip8

namespace Session

/-- What a session holds, apart from its logger, its clock and its journal. -/
structure Snapshot where
  program : List UInt8
  key : WordPair
  cyclesPerFrame : Nat
  system : System
  isInitial : Bool
  cyclesRun : Nat
  fault : Option Fault
  deriving DecidableEq, Repr

def snapshot (session : Session) : Snapshot where
  program := session.program
  key := session.key
  cyclesPerFrame := session.cyclesPerFrame
  system := session.system
  isInitial := session.isInitial
  cyclesRun := session.cyclesRun
  fault := session.fault

/-- What a host gets to see of operations one after another: each answer, and what the session holds
then. -/
def trace (session : Session) : List Operation → List (Except Error Answer × Snapshot)
  | [] => []
  | operation :: rest =>
      let (next, answer) := session.perform operation
      (answer, next.snapshot) :: next.trace rest

/-- Two outcomes of an operation with the same answer leave related sessions. -/
def Matching {Result : Type} (Related : Session → Session → Prop)
    (left right : Session × Except Error Result) : Prop :=
  Related left.1 right.1 ∧ left.2 = right.2

/-- Related sessions answer alike and stay related. -/
structure Simulation (Related : Session → Session → Prop) : Prop where
  cyclesPerFrame_eq : ∀ {left right}, Related left right →
    left.cyclesPerFrame = right.cyclesPerFrame
  cycle : ∀ {left right}, Related left right → ∀ stimulus,
    Matching Related (left.cycle stimulus) (right.cycle stimulus)
  /-- Completed cycles of related sessions agree on whether they drew. -/
  isDirty_eq : ∀ {left right}, Related left right → ∀ stimulus,
    (left.cycle stimulus).2 = .ok () →
      (left.cycle stimulus).1.isDirty = (right.cycle stimulus).1.isDirty
  clearDirty : ∀ {left right}, Related left right → Related left.clearDirty right.clearDirty
  setTime : ∀ {left right}, Related left right → ∀ now,
    Related (left.setTime now) (right.setTime now)
  reset : ∀ {left right}, Related left right → Matching Related left.reset right.reset

variable {Related : Session → Session → Prop} {left right session : Session}

theorem Matching.map {Result Shown : Type} {left right : Session × Except Error Result}
    (matching : Matching Related left right) (report : Result → Shown) :
    Matching Related (left.map id (Except.map report)) (right.map id (Except.map report)) :=
  ⟨matching.1, congrArg (Except.map report) matching.2⟩

namespace Simulation

theorem burst (simulation : Simulation Related) (related : Related left right) (input : Input)
    (tick drew : Bool) (count : Nat) :
    Matching Related (left.burst input tick drew count) (right.burst input tick drew count) := by
  -- Only the first cycle of a frame ticks, so the induction has to allow for either flag.
  induction count generalizing left right tick drew with
  | zero => exact ⟨related, rfl⟩
  | succ count ih =>
      have cycled := simulation.cycle related ⟨tick, input⟩
      have sameFlag := simulation.isDirty_eq related ⟨tick, input⟩
      rw [Session.burst, Session.burst]
      rcases leftCycled : left.cycle ⟨tick, input⟩ with ⟨leftNext, leftResult⟩
      rcases rightCycled : right.cycle ⟨tick, input⟩ with ⟨rightNext, rightResult⟩
      rw [leftCycled, rightCycled] at cycled sameFlag
      obtain ⟨nextRelated, rfl⟩ : Related leftNext rightNext ∧ leftResult = rightResult := cycled
      cases leftResult with
      | error error => exact ⟨nextRelated, rfl⟩
      | ok done =>
          have flag_eq : leftNext.isDirty = rightNext.isDirty := sameFlag rfl
          dsimp only
          rw [flag_eq]
          exact ih nextRelated false _

theorem runFrame (simulation : Simulation Related) (related : Related left right) (input : Input) :
    Matching Related (left.runFrame input) (right.runFrame input) := by
  rw [Session.runFrame, Session.runFrame, simulation.cyclesPerFrame_eq related]
  exact simulation.burst related input true false _

theorem countFrames (simulation : Simulation Related) (related : Related left right)
    (input : Input) (drawn count : Nat) :
    Matching Related (left.countFrames input drawn count)
      (right.countFrames input drawn count) := by
  induction count generalizing left right drawn with
  | zero => exact ⟨related, rfl⟩
  | succ count ih =>
      have framed := simulation.runFrame related input
      rw [Session.countFrames, Session.countFrames]
      rcases leftFramed : left.runFrame input with ⟨leftNext, leftResult⟩
      rcases rightFramed : right.runFrame input with ⟨rightNext, rightResult⟩
      rw [leftFramed, rightFramed] at framed
      obtain ⟨nextRelated, rfl⟩ : Related leftNext rightNext ∧ leftResult = rightResult := framed
      cases leftResult with
      | error error => exact ⟨nextRelated, rfl⟩
      | ok drew => exact ih nextRelated _

theorem perform (simulation : Simulation Related) (related : Related left right)
    (operation : Operation) :
    Matching Related (left.perform operation) (right.perform operation) := by
  cases operation with
  | cycle stimulus => exact (simulation.cycle related stimulus).map _
  | frame input => exact (simulation.runFrame related input).map _
  | frames input count => exact (simulation.countFrames related input 0 count.toNat).map _
  | clearDirty => exact ⟨simulation.clearDirty related, rfl⟩
  | setTime now => exact ⟨simulation.setTime related now, rfl⟩
  | reset => exact (simulation.reset related).map _

theorem after (simulation : Simulation Related) (related : Related left right)
    (operations : List Operation) : Related (left.after operations) (right.after operations) := by
  induction operations generalizing left right with
  | nil => exact related
  | cons operation rest ih => exact ih (simulation.perform related operation).1

end Simulation

/-- A property that survives single cycles and the operations that run none survives every sequence
of operations. -/
theorem after_preserves (Property : Session → Prop)
    (cycle : ∀ session stimulus, Property session → Property (session.cycle stimulus).1)
    (clearDirty : ∀ session, Property session → Property session.clearDirty)
    (setTime : ∀ session now, Property session → Property (session.setTime now))
    (reset : ∀ session, Property session → Property session.reset.1)
    (start : Property session) (operations : List Operation) :
    Property (session.after operations) := by
  -- The property is a simulation of the session by itself.
  have simulation : Simulation fun left right => left = right ∧ Property left := by
    constructor
    · rintro left right ⟨rfl, _⟩
      rfl
    · rintro left right ⟨rfl, holds⟩ stimulus
      exact ⟨⟨rfl, cycle left stimulus holds⟩, rfl⟩
    · rintro left right ⟨rfl, _⟩ stimulus _
      rfl
    · rintro left right ⟨rfl, holds⟩
      exact ⟨rfl, clearDirty left holds⟩
    · rintro left right ⟨rfl, holds⟩ now
      exact ⟨rfl, setTime left now holds⟩
    · rintro left right ⟨rfl, holds⟩
      exact ⟨⟨rfl, reset left holds⟩, rfl⟩
  exact (simulation.after ⟨rfl, start⟩ operations).2

theorem cycle_of_snapshot_eq (same : left.snapshot = right.snapshot) (stimulus : Stimulus) :
    Matching (fun left right => left.snapshot = right.snapshot) (left.cycle stimulus)
      (right.cycle stimulus) := by
  have sameFault : left.fault = right.fault := congrArg Snapshot.fault same
  have sameSystem : left.system = right.system := congrArg Snapshot.system same
  rcases halted : left.fault with _ | cause
  · have running : right.fault = none := sameFault ▸ halted
    rcases stepped : left.system.cycle stimulus with cause | system
    · rw [cycle_of_faulted halted stepped, cycle_of_faulted running (sameSystem ▸ stepped)]
      exact ⟨congrArg (fun snapshot : Snapshot =>
        { snapshot with isInitial := false, fault := some cause }) same, rfl⟩
    · rw [cycle_of_completed halted stepped, cycle_of_completed running (sameSystem ▸ stepped)]
      exact ⟨congrArg (fun snapshot : Snapshot =>
        { snapshot with
          system, isInitial := false, cyclesRun := snapshot.cyclesRun + 1 }) same, rfl⟩
  · rw [cycle_of_halted halted, cycle_of_halted (sameFault ▸ halted)]
    exact ⟨same, rfl⟩

theorem reset_of_snapshot_eq (same : left.snapshot = right.snapshot) :
    Matching (fun left right => left.snapshot = right.snapshot) left.reset right.reset := by
  have sameProgram : left.program = right.program := congrArg Snapshot.program same
  have sameKey : left.key = right.key := congrArg Snapshot.key same
  rw [reset, reset, ← sameProgram, ← sameKey]
  rcases Machine.boot left.key left.program with cause | machine
  · exact ⟨congrArg (fun snapshot : Snapshot =>
      { snapshot with system.source := snapshot.system.source.rewind }) same, rfl⟩
  · exact ⟨congrArg (fun snapshot : Snapshot =>
      { snapshot with
        system := ⟨machine, snapshot.system.source.rewind⟩
        isInitial := true
        cyclesRun := 0
        fault := none }) same, rfl⟩

/-- Logger, clock and journal have no influence on what a session does. -/
theorem simulation_snapshot_eq :
    Simulation fun left right => left.snapshot = right.snapshot where
  cyclesPerFrame_eq same := congrArg Snapshot.cyclesPerFrame same
  cycle := cycle_of_snapshot_eq
  isDirty_eq same stimulus _ :=
    congrArg (·.system.machine.display.dirty) (cycle_of_snapshot_eq same stimulus).1
  clearDirty same :=
    congrArg (fun snapshot : Snapshot =>
      { snapshot with system := snapshot.system.clearDirty }) same
  setTime same _ := same
  reset := reset_of_snapshot_eq

theorem trace_of_snapshot_eq (same : left.snapshot = right.snapshot)
    (operations : List Operation) : left.trace operations = right.trace operations := by
  induction operations generalizing left right with
  | nil => rfl
  | cons operation rest ih =>
      rcases simulation_snapshot_eq.perform same operation with ⟨nextSame, sameAnswer⟩
      rw [trace, trace]
      dsimp only
      rw [sameAnswer, nextSame, ih nextSame]

def Snapshot.booted (program : List UInt8) (key : WordPair) (cyclesPerFrame : Nat)
    (system : System) : Snapshot where
  program := program
  key := key
  cyclesPerFrame := cyclesPerFrame
  system := system
  isInitial := true
  cyclesRun := 0
  fault := none

theorem start_eq_ok_iff {settings : Settings} {now : Int} :
    start settings now = .ok session ↔
      0 < settings.cyclesPerFrame ∧ settings.program.mapM programByte = .ok session.program ∧
        Threefry.ofSeed settings.seed = .ok session.key ∧
        (∃ machine, Machine.boot session.key session.program = .ok machine ∧
          session.snapshot = .booted session.program session.key settings.cyclesPerFrame.toNat
            ⟨machine, settings.source⟩) ∧
        session.logger = settings.logger ∧ session.now = now ∧
        session.journal =
          (Event.loaded session.program.length).entries settings.logger now := by
  rw [start]
  split
  · rename_i positive
    simp only [Outcome.bind_eq_ok_iff, Outcome.pure_eq_ok_iff, Outcome.mapError_eq_ok_iff]
    constructor
    · rintro ⟨program, parsed, key, seeded, machine, loaded, rfl⟩
      exact ⟨positive, parsed, seeded, ⟨machine, loaded, rfl⟩, rfl, rfl, rfl⟩
    · rintro ⟨_, parsed, seeded, ⟨machine, loaded, same⟩, sameLogger, sameTime, sameJournal⟩
      refine ⟨_, parsed, _, seeded, machine, loaded, ?_⟩
      obtain ⟨program, key, cyclesPerFrame, system, logger, time, isInitial, cyclesRun, fault,
        journal, _⟩ := session
      simp only [snapshot, Snapshot.booted, Snapshot.mk.injEq] at same
      simp_all [record]
  · rename_i refused
    simp [refused]

/-- Whether a session starts, and what it then holds, has nothing to do with reporting either. -/
theorem map_snapshot_start (settings : Settings) (now : Int) :
    (start settings now).map snapshot =
      if 0 < settings.cyclesPerFrame then do
        let program ← (settings.program.mapM programByte).mapError .misuse
        let key ← (Threefry.ofSeed settings.seed).mapError .misuse
        let machine ← (Machine.boot key program).mapError .fault
        return .booted program key settings.cyclesPerFrame.toNat ⟨machine, settings.source⟩
      else .error (.misuse (.cyclesPerFrame settings.cyclesPerFrame)) := by
  by_cases positive : 0 < settings.cyclesPerFrame
  · rw [start, dif_pos positive, if_pos positive]
    rcases settings.program.mapM programByte with mistake | program
    · rfl
    · rcases Threefry.ofSeed settings.seed with mistake | key
      · rfl
      · change Except.map snapshot ((Machine.boot key program).mapError Error.fault >>= _) =
          ((Machine.boot key program).mapError Error.fault >>= _)
        rcases Machine.boot key program with cause | machine
        · rfl
        · rfl
  · rw [start, dif_neg positive, if_neg positive]
    rfl

theorem exists_start (settings : Settings) (now : Int) (positive : 0 < settings.cyclesPerFrame)
    {program : List UInt8} (parsed : settings.program.mapM programByte = .ok program)
    {key : WordPair} (seeded : Threefry.ofSeed settings.seed = .ok key) {machine : Machine}
    (loaded : Machine.boot key program = .ok machine) :
    ∃ fresh, start settings now = .ok fresh ∧
      fresh.snapshot =
        .booted program key settings.cyclesPerFrame.toNat ⟨machine, settings.source⟩ := by
  have started := map_snapshot_start settings now
  rw [if_pos positive, parsed, seeded] at started
  change _ = ((Machine.boot key program).mapError Error.fault >>= _) at started
  rw [loaded] at started
  exact Outcome.map_eq_ok_iff.mp started

end Session

end Chip8
