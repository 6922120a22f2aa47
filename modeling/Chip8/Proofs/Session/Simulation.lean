import Chip8.Proofs.Execution.Effects
import Chip8.Proofs.Session.Cycles

/-!
# Sessions follow their machines

A session that has just been booted does what its machine does by itself: call by call, for as long
as no cycle faults, it holds the machine that the bare run holds. The first fault is passed on, and
leaves the machine as it was before the cycle that faulted. From then on, whatever else the host
does, every request for a cycle is refused with that same fault and changes nothing, until the host
resets the session.
-/

namespace Chip8

/-- The operations that run at least one cycle of a session that is running. -/
def Operation.RunsCycles : Operation → Prop
  | .cycle _ | .frame _ => True
  | .frames _ count => 0 < count
  | .clearDirty | .setTime _ | .reset => False

namespace Session

/-- The sessions that a start or a reset leaves. -/
inductive Booted : Session → Prop where
  | started {settings : Settings} {now : Int} {session : Session}
      (booted : start settings now = .ok session) : Booted session
  | restarted {session next : Session} (booted : session.reset = (next, .ok ())) : Booted next

/-- Whatever a host does except resetting, each of its requests for a cycle fails because of a fault
and changes nothing. -/
def Refuses (session : Session) (cause : Fault) : Prop :=
  ∀ operations, (∀ operation ∈ operations, operation ≠ .reset) →
    ∀ operation : Operation, operation.RunsCycles →
      (session.after operations).perform operation =
        (session.after operations, .error (.halted cause))

/-- A session does what a system does by itself until a cycle of it faults, and nothing from then
on. -/
structure Follows (session : Session) (system : System) : Prop where
  /-- As long as no cycle faults, the session holds the system that the run reaches. -/
  completes : ∀ done reached, system.run done = (reached, none) →
    ∃ next, session.run done = (next, .ok ()) ∧ next.system = reached ∧ next.fault = none ∧
      next.cyclesRun = done.length
  /-- The first fault is raised and recorded, and the session keeps what it held before. -/
  faults : ∀ done reached stimulus cause, system.run done = (reached, none) →
    reached.cycle stimulus = .error cause →
      ∃ last halted, session.run done = (last, .ok ()) ∧
        last.cycle stimulus = (halted, .error (.fault cause)) ∧ halted.fault = some cause ∧
        halted.system = reached ∧ halted.cyclesRun = done.length ∧ halted.isInitial = false ∧
        halted.Refuses cause

variable {session : Session} {cause : Fault}

theorem Booted.exists_boot (booted : session.Booted) :
    ∃ machine, Machine.boot session.key session.program = .ok machine ∧
      session.system.machine = machine ∧ session.fault = none ∧ session.cyclesRun = 0 := by
  cases booted with
  | @started settings now _ booted =>
      rw [start] at booted
      split at booted
      · simp only [Outcome.bind_eq_ok_iff, Outcome.pure_eq_ok_iff,
          Outcome.mapError_eq_ok_iff] at booted
        rcases booted with ⟨program, _, key, _, machine, loaded, rfl⟩
        exact ⟨machine, loaded, rfl, rfl, rfl⟩
      · contradiction
  | @restarted previous _ booted =>
      rw [reset] at booted
      rcases loaded : Machine.boot previous.key previous.program with problem | machine
      · simp [loaded] at booted
      · simp only [loaded, Prod.mk.injEq, and_true] at booted
        subst booted
        exact ⟨machine, loaded, rfl, rfl, rfl⟩

theorem run_of_completed {stimuli : List Stimulus} {reached : System}
    (running : session.fault = none) (completed : session.system.run stimuli = (reached, none)) :
    ∃ next, session.run stimuli = (next, .ok ()) ∧ next.system = reached ∧ next.fault = none ∧
      next.cyclesRun = session.cyclesRun + stimuli.length := by
  induction stimuli generalizing session with
  | nil =>
      rw [System.run, Prod.mk.injEq] at completed
      exact ⟨session, rfl, completed.1, running, rfl⟩
  | cons stimulus rest ih =>
      rcases System.run_cons_completed_iff.mp completed with ⟨system, stepped, restCompleted⟩
      have stillRunning : (session.complete system).fault = none := running
      rcases ih stillRunning restCompleted with ⟨next, ran, held, unfaulted, counted⟩
      refine ⟨next, ?_, held, unfaulted, ?_⟩
      · rw [run, cycle_of_completed running stepped]
        exact ran
      · have counts : (session.complete system).cyclesRun = session.cyclesRun + 1 := rfl
        rw [counted, counts, List.length_cons]
        omega

theorem runFrame_of_halted (halted : session.fault = some cause) (input : Input) :
    session.runFrame input = (session, .error (.halted cause)) := by
  rcases frame_eq : session.cyclesPerFrame with _ | count
  · exact absurd frame_eq (Nat.ne_of_gt session.cyclesPerFrame_pos)
  · rw [runFrame, frame_eq, burst, cycle_of_halted halted]

theorem runFrames_of_halted (halted : session.fault = some cause) (input : Input) {count : Int}
    (some_frames : 0 < count) :
    session.runFrames input count = (session, .error (.halted cause)) := by
  rcases frames_eq : count.toNat with _ | rest
  · omega
  · rw [runFrames, frames_eq, countFrames, runFrame_of_halted halted]

theorem perform_of_halted (halted : session.fault = some cause) {operation : Operation}
    (runs : operation.RunsCycles) :
    session.perform operation = (session, .error (.halted cause)) := by
  cases operation with
  | cycle stimulus =>
      rw [perform, cycle_of_halted halted]
      rfl
  | frame input =>
      rw [perform, runFrame_of_halted halted]
      rfl
  | frames input count =>
      rw [perform, runFrames_of_halted halted input runs]
      rfl
  | clearDirty => exact runs.elim
  | setTime now => exact runs.elim
  | reset => exact runs.elim

theorem fault_perform_of_halted (halted : session.fault = some cause) {operation : Operation}
    (keeps : operation ≠ .reset) : (session.perform operation).1.fault = some cause := by
  cases operation with
  | cycle stimulus =>
      have runs : (Operation.cycle stimulus).RunsCycles := trivial
      rw [perform_of_halted halted runs, halted]
  | frame input =>
      have runs : (Operation.frame input).RunsCycles := trivial
      rw [perform_of_halted halted runs, halted]
  | frames input count =>
      by_cases runs : (Operation.frames input count).RunsCycles
      · rw [perform_of_halted halted runs, halted]
      · have none_eq : count.toNat = 0 := Int.toNat_of_nonpos (Int.not_lt.mp runs)
        rw [perform, runFrames, none_eq, countFrames]
        exact halted
  | clearDirty => exact halted
  | setTime now => exact halted
  | reset => exact absurd rfl keeps

theorem fault_after_of_halted {operations : List Operation} (halted : session.fault = some cause)
    (keeps : ∀ operation ∈ operations, operation ≠ .reset) :
    (session.after operations).fault = some cause := by
  induction operations generalizing session with
  | nil => exact halted
  | cons operation rest ih =>
      rw [after]
      apply ih
      · exact fault_perform_of_halted halted (keeps operation List.mem_cons_self)
      · intro later later_mem
        exact keeps later (List.mem_cons_of_mem operation later_mem)

theorem refuses_of_halted (halted : session.fault = some cause) : session.Refuses cause := by
  intro operations keeps operation runs
  exact perform_of_halted (fault_after_of_halted halted keeps) runs

/-- A session that is booted follows the machine that its program boots. -/
theorem Booted.follows (booted : session.Booted) :
    ∃ machine, Machine.boot session.key session.program = .ok machine ∧
      session.Follows ⟨machine, session.system.source⟩ := by
  rcases booted.exists_boot with ⟨machine, loaded, rfl, running, fresh⟩
  refine ⟨_, loaded, ?_, ?_⟩
  · intro done reached completed
    rcases run_of_completed running completed with ⟨next, ran, held, unfaulted, counted⟩
    exact ⟨next, ran, held, unfaulted, by rw [counted, fresh, Nat.zero_add]⟩
  · intro done reached stimulus cause completed faulted
    rcases run_of_completed running completed with ⟨last, ran, held, unfaulted, counted⟩
    subst held
    refine ⟨last, last.halt cause, ran, cycle_of_faulted unfaulted faulted, rfl, rfl, ?_, rfl,
      refuses_of_halted rfl⟩
    rw [halt, counted, fresh, Nat.zero_add]

/-- A program that returns before it has called anything. -/
theorem Booted.follows_return :
    ∃ session, start { program := [0x00, 0xEE], logger := standardLogger 0 } 0 = .ok session ∧
      ∃ machine, Machine.boot session.key session.program = .ok machine ∧
        session.Follows ⟨machine, session.system.source⟩ := by
  have starts : ∃ session,
      start { program := [0x00, 0xEE], logger := standardLogger 0 } 0 = .ok session :=
    ⟨_, rfl⟩
  rcases starts with ⟨session, started⟩
  exact ⟨session, started, Booted.follows (.started started)⟩

end Session

end Chip8
