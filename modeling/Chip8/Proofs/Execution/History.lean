import Chip8.Proofs.Execution.Effects

/-!
# The history of a run

A run passes from system to system, cycle by cycle. The systems it has passed tell which
instructions it has executed and which random bytes it has sampled.
-/

namespace Chip8

def Instruction.isRandom : Instruction → Bool
  | .random _ _ => true
  | _ => false

namespace System

/-- The instruction at the program counter, if there is one. -/
def pending? (system : System) : Option Instruction :=
  system.machine.fetch.toOption.bind fun opcode => Instruction.decode? opcode.toNat

/-- The byte that the next cycle samples, if it samples one. -/
def sampled? (system : System) : Option UInt8 :=
  (system.pending?.filter Instruction.isRandom).map fun _ => system.byte

/-- The systems from which the completed cycles of a run start. -/
def path (system : System) : List Stimulus → List System
  | [] => []
  | stimulus :: rest =>
      (system.cycle stimulus).toOption.elim [] fun next => system :: next.path rest

/-- The instructions of the completed cycles of a run. -/
def executed (system : System) (stimuli : List Stimulus) : List Instruction :=
  (system.path stimuli).filterMap pending?

def sampled (system : System) (stimuli : List Stimulus) : List UInt8 :=
  (system.path stimuli).filterMap sampled?

variable {system next : System} {stimulus : Stimulus} {cause : Fault}

theorem countP_tick_cons (stimulus : Stimulus) (rest : List Stimulus) :
    (stimulus :: rest).countP Stimulus.tick =
      stimulus.tick.toNat + rest.countP Stimulus.tick := by
  rw [List.countP_cons, Nat.add_comm]
  cases stimulus.tick <;> rfl

theorem run_cons_of_ok (completed : system.cycle stimulus = .ok next) (rest : List Stimulus) :
    system.run (stimulus :: rest) = next.run rest := by
  rw [run, completed]
  rfl

theorem run_cons_of_error (faulted : system.cycle stimulus = .error cause)
    (rest : List Stimulus) : system.run (stimulus :: rest) = (system, some cause) := by
  rw [run, faulted]
  rfl

theorem path_cons_of_ok (completed : system.cycle stimulus = .ok next) (rest : List Stimulus) :
    system.path (stimulus :: rest) = system :: next.path rest := by
  rw [path, completed]
  rfl

theorem path_cons_of_error (faulted : system.cycle stimulus = .error cause)
    (rest : List Stimulus) : system.path (stimulus :: rest) = [] := by
  rw [path, faulted]
  rfl

theorem path_take (system : System) (stimuli : List Stimulus) (count : Nat) :
    system.path (stimuli.take count) = (system.path stimuli).take count := by
  induction stimuli generalizing system count with
  | nil => simp [path]
  | cons stimulus rest ih =>
      rcases count with _ | count
      · simp [path]
      · rw [List.take_succ_cons]
        rcases stepped : system.cycle stimulus with cause | next
        · simp [path_cons_of_error stepped]
        · simp [path_cons_of_ok stepped, ih]

theorem sampled_take_isPrefix (system : System) (stimuli : List Stimulus) (count : Nat) :
    system.sampled (stimuli.take count) <+: system.sampled stimuli := by
  rw [sampled, sampled, path_take]
  have shorter := List.take_prefix count (system.path stimuli)
  exact shorter.filterMap _

theorem pending?_of_fetch {opcode : UInt16} (fetched : system.machine.fetch = .ok opcode) :
    system.pending? = Instruction.decode? opcode.toNat := by
  rw [pending?, fetched]
  rfl

theorem pending?_of_fetch_error (unfetched : system.machine.fetch = .error cause) :
    system.pending? = none := by
  rw [pending?, unfetched]
  rfl

/-- A cycle with an instruction to perform performs it, and ticks if that succeeds. -/
theorem cycle_of_pending {instruction : Instruction} (pending : system.pending? = some instruction)
    (stimulus : Stimulus) :
    system.cycle stimulus =
      (system.clearDirty.perform stimulus.input instruction).map (·.tickIf stimulus.tick) := by
  rcases fetched : system.machine.fetch with cause | opcode
  · rw [pending?_of_fetch_error fetched] at pending
    contradiction
  · rw [pending?_of_fetch fetched] at pending
    rw [cycle_of_fetch fetched, execute, pending]

/-- A completed cycle has performed the instruction at the program counter. -/
theorem exists_performs_pending (completed : system.cycle stimulus = .ok next) :
    ∃ instruction performed, system.pending? = some instruction ∧
      (system.clearDirty.supply instruction).machine.Performs stimulus.input system.byte
        instruction performed ∧
      next = ({ system.clearDirty.supply instruction with machine := performed }.tickIf
        stimulus.tick) := by
  rcases exists_performs_of_cycle completed with
    ⟨opcode, instruction, performed, fetched, encoded, performs, rfl⟩
  have decoded := Instruction.decode?_eq_some_iff.mpr encoded
  exact ⟨instruction, performed, (pending?_of_fetch fetched).trans decoded, performs, rfl⟩

theorem exists_pending_of_cycle (completed : system.cycle stimulus = .ok next) :
    ∃ instruction, system.pending? = some instruction := by
  rcases exists_performs_pending completed with ⟨instruction, performed, pending, _⟩
  exact ⟨instruction, pending⟩

theorem executed_cons_of_ok (completed : system.cycle stimulus = .ok next)
    (rest : List Stimulus) :
    system.executed (stimulus :: rest) = system.pending?.toList ++ next.executed rest := by
  rcases exists_pending_of_cycle completed with ⟨instruction, pending⟩
  simp [executed, path_cons_of_ok completed, pending]

theorem executed_cons_of_error (faulted : system.cycle stimulus = .error cause)
    (rest : List Stimulus) : system.executed (stimulus :: rest) = [] := by
  rw [executed, path_cons_of_error faulted]
  rfl

/-- The instruction of a completed cycle stands between the systems that the cycles up to it and the
cycles including it leave. -/
theorem exists_cycle_of_executed {stimuli : List Stimulus} {index : Nat} {instruction : Instruction}
    (ran : (system.executed stimuli)[index]? = some instruction) :
    ∃ before stimulus after, system.run (stimuli.take index) = (before, none) ∧
      before.pending? = some instruction ∧ before.cycle stimulus = .ok after ∧
      system.run (stimuli.take (index + 1)) = (after, none) := by
  induction stimuli generalizing system index with
  | nil => simp [executed, path] at ran
  | cons stimulus rest ih =>
      rcases stepped : system.cycle stimulus with cause | next
      · simp [executed_cons_of_error stepped] at ran
      · rcases exists_pending_of_cycle stepped with ⟨first, pending⟩
        simp only [executed_cons_of_ok stepped, pending, Option.toList_some,
          List.singleton_append] at ran
        rcases index with _ | index
        · obtain rfl : first = instruction := by simpa using ran
          refine ⟨system, stimulus, next, rfl, pending, stepped, ?_⟩
          simp [run_cons_of_ok stepped, run]
        · have later : (next.executed rest)[index]? = some instruction := by simpa using ran
          rcases ih later with ⟨before, other, after, reached, pendingThen, completed, left⟩
          refine ⟨before, other, after, ?_, pendingThen, completed, ?_⟩
          · simpa [run_cons_of_ok stepped] using reached
          · simpa [run_cons_of_ok stepped] using left

theorem exists_cycle_of_mem_path {stimuli : List Stimulus} {before : System}
    (passed : before ∈ system.path stimuli) :
    ∃ stimulus after, before.cycle stimulus = .ok after := by
  induction stimuli generalizing system with
  | nil => simp [path] at passed
  | cons stimulus rest ih =>
      rcases stepped : system.cycle stimulus with cause | next
      · simp [path_cons_of_error stepped] at passed
      · simp only [path_cons_of_ok stepped, List.mem_cons] at passed
        rcases passed with rfl | later
        · exact ⟨stimulus, next, stepped⟩
        · exact ih later

theorem length_path_of_completed {stimuli : List Stimulus} {last : System}
    (completed : system.run stimuli = (last, none)) :
    (system.path stimuli).length = stimuli.length := by
  induction stimuli generalizing system with
  | nil => rfl
  | cons stimulus rest ih =>
      rcases run_cons_completed_iff.mp completed with ⟨next, stepped, restCompleted⟩
      simp [path_cons_of_ok stepped, ih restCompleted]

/-- A run that completes its first part goes on from where that part has led. -/
theorem run_and_path_append {first : List Stimulus} {middle : System}
    (reached : system.run first = (middle, none)) (second : List Stimulus) :
    system.run (first ++ second) = middle.run second ∧
      system.path (first ++ second) = system.path first ++ middle.path second := by
  induction first generalizing system with
  | nil =>
      simp only [run, Prod.mk.injEq, and_true] at reached
      simp [reached, path]
  | cons stimulus rest ih =>
      rcases run_cons_completed_iff.mp reached with ⟨next, stepped, restReached⟩
      simp [run_cons_of_ok stepped, path_cons_of_ok stepped, ih restReached]

/-- The instruction of a completed cycle is followed by the rest of the run. -/
theorem exists_rest_of_executed {stimuli : List Stimulus} {index : Nat} {instruction : Instruction}
    {before : System} (ran : (system.executed stimuli)[index]? = some instruction)
    (reached : system.run (stimuli.take index) = (before, none)) :
    ∃ stimulus after, stimuli.drop index = stimulus :: stimuli.drop (index + 1) ∧
      before.pending? = some instruction ∧ before.cycle stimulus = .ok after ∧
      after.run (stimuli.drop (index + 1)) = system.run stimuli ∧
      after.executed (stimuli.drop (index + 1)) =
        (system.executed stimuli).drop (index + 1) := by
  induction stimuli generalizing system index with
  | nil => simp [executed, path] at ran
  | cons stimulus rest ih =>
      rcases stepped : system.cycle stimulus with cause | next
      · simp [executed_cons_of_error stepped] at ran
      · rcases exists_pending_of_cycle stepped with ⟨first, pending⟩
        simp only [executed_cons_of_ok stepped, pending, Option.toList_some,
          List.singleton_append] at ran ⊢
        rcases index with _ | index
        · obtain rfl : first = instruction := by simpa using ran
          obtain rfl : system = before := by simpa [run] using reached
          exact ⟨stimulus, next, rfl, pending, stepped, (run_cons_of_ok stepped rest).symm, rfl⟩
        · have later : (next.executed rest)[index]? = some instruction := by simpa using ran
          have reachedLater : next.run (rest.take index) = (before, none) := by
            simpa [run_cons_of_ok stepped] using reached
          simpa [run_cons_of_ok stepped] using ih later reachedLater

/-- What a cycle makes of a view of the system by looking at the system that it starts from, a run
makes of it by looking at the systems that it passes. -/
theorem run_eq_foldl_path {View : Type} (view : System → View) (update : View → System → View)
    (step : ∀ system stimulus next, system.cycle stimulus = .ok next →
      view next = update (view system) system)
    (system : System) (stimuli : List Stimulus) :
    view (system.run stimuli).1 = (system.path stimuli).foldl update (view system) := by
  induction stimuli generalizing system with
  | nil => rfl
  | cons stimulus rest ih =>
      rcases stepped : system.cycle stimulus with cause | next
      · simp [run_cons_of_error stepped, path_cons_of_error stepped]
      · simp [run_cons_of_ok stepped, path_cons_of_ok stepped, ih,
          step system stimulus next stepped]

end System

end Chip8
