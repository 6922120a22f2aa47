import Chip8.Proofs.Execution.Unread

/-!
# The outputs of a machine

The flag of the display and the sound timer are there for the host. Systems that differ in nothing
else run alike: every cycle settles the flag, and from the first time that the sound timer is set
they do not differ at all.
-/

namespace Chip8

namespace System

def mute (system : System) : System :=
  { system with machine := { system.machine with sound := .zero } }

/-- The system without its outputs. -/
def silent (system : System) : System :=
  system.mute.clearDirty

/-- Two runs through the same stimuli that execute the same instructions and end alike. They leave
systems that agree except for the sound timer once a cycle has been completed, and that agree
altogether once the sound timer has been set. -/
structure RunsAlike (left right : System) (stimuli : List Stimulus) : Prop where
  completed_eq : (left.path stimuli).length = (right.path stimuli).length
  executed_eq : left.executed stimuli = right.executed stimuli
  fault_eq : (left.run stimuli).2 = (right.run stimuli).2
  mute_eq : left.executed stimuli ≠ [] → (left.run stimuli).1.mute = (right.run stimuli).1.mute
  eq : ∀ register, .setSound register ∈ left.executed stimuli →
    (left.run stimuli).1 = (right.run stimuli).1

variable {left right system next : System} {stimulus : Stimulus} {cause : Fault}

theorem pending?_recast (system : System) (unread : Unread) (source : RandomSource) :
    (system.recast unread source).pending? = system.pending? := by
  rw [pending?, fetch_recast, pending?]

theorem exists_recast_of_silent_eq (same : left.silent = right.silent) :
    ∃ dirty sound, right = left.recast ⟨left.machine.key, dirty, sound⟩ left.source := by
  have sameKey : left.machine.key = right.machine.key := congrArg (·.machine.key) same
  have sameSource : left.source = right.source := congrArg (·.source) same
  refine ⟨right.machine.display.dirty, right.machine.sound, ?_⟩
  rw [sameKey, sameSource]
  calc
    right = right.silent.recast right.machine.unread right.source := rfl
    _ = left.silent.recast right.machine.unread right.source := by rw [same]
    _ = left.recast right.machine.unread right.source := rfl

theorem mute_recast_afterCycle (system : System) (unread : Unread) (dirty : Bool) (sound : Timer)
    (source after : RandomSource) (registers : RegisterFile) (instruction : Instruction)
    (tick : Bool) :
    (system.recast ({ unread with dirty, sound }.afterCycle source registers instruction tick)
        after).mute =
      (system.recast (unread.afterCycle source registers instruction tick) after).mute := by
  cases instruction <;> cases tick <;> rfl

theorem afterCycle_setSound (unread : Unread) (dirty : Bool) (sound : Timer)
    (source : RandomSource) (registers : RegisterFile) (register : Register) (tick : Bool) :
    { unread with dirty, sound }.afterCycle source registers (.setSound register) tick =
      unread.afterCycle source registers (.setSound register) tick := by
  cases tick <;> rfl

/-- A cycle without regard to the outputs. It settles the flag, and setting the sound timer settles
the sound timer. -/
theorem cycle_of_silent_eq (same : left.silent = right.silent) (stimulus : Stimulus) :
    (∃ cause, left.cycle stimulus = .error cause ∧ right.cycle stimulus = .error cause) ∨
      ∃ leftNext rightNext, left.cycle stimulus = .ok leftNext ∧
        right.cycle stimulus = .ok rightNext ∧ leftNext.mute = rightNext.mute ∧
        ∀ register, left.pending? = some (.setSound register) → leftNext = rightNext := by
  rcases exists_recast_of_silent_eq same with ⟨dirty, sound, rfl⟩
  rcases pending : left.pending? with _ | instruction
  · exact .inl (cycle_recast_of_pending?_eq_none _ _ stimulus pending)
  · have recast : (left.recast ⟨left.machine.key, dirty, sound⟩ left.source).cycle stimulus = _ :=
      cycle_recast pending fun _ => rfl
    rcases completed : left.cycle stimulus with cause | next
    · rw [completed] at recast
      exact .inl ⟨cause, rfl, recast⟩
    · rw [completed] at recast
      -- What the cycle makes of the outputs of the one system is compared with what it makes of
      -- those of the other.
      rcases unread_of_cycle pending completed with ⟨unread_eq, source_eq⟩
      have itself : next.recast (left.machine.unread.afterCycle left.source
          left.machine.registers instruction stimulus.tick) (left.source.after instruction) =
          next := by
        rw [← unread_eq, ← source_eq]
        rfl
      refine .inr ⟨next, _, rfl, recast, ?_, ?_⟩
      · rw [← itself]
        exact (mute_recast_afterCycle next left.machine.unread ..).symm
      · rintro register setting
        rw [Option.some.injEq] at setting
        subst setting
        rw [← itself]
        exact congrArg (next.recast · _) (afterCycle_setSound left.machine.unread ..).symm

theorem mute_run_eq (same : left.mute = right.mute) (stimuli : List Stimulus) :
    (left.run stimuli).1.mute = (right.run stimuli).1.mute := by
  induction stimuli generalizing left right with
  | nil => exact same
  | cons stimulus rest ih =>
      rcases cycle_of_silent_eq (congrArg clearDirty same) stimulus with
        ⟨cause, leftFaulted, rightFaulted⟩ | ⟨leftNext, rightNext, leftDone, rightDone, mute_eq, _⟩
      · rw [run_cons_of_error leftFaulted, run_cons_of_error rightFaulted]
        exact same
      · rw [run_cons_of_ok leftDone, run_cons_of_ok rightDone]
        exact ih mute_eq

/-- The outputs of a machine are never read. -/
theorem runsAlike_of_silent_eq (same : left.silent = right.silent) (stimuli : List Stimulus) :
    left.RunsAlike right stimuli := by
  induction stimuli generalizing left right with
  | nil =>
      exact ⟨rfl, rfl, rfl, fun ran => absurd rfl ran, fun _ set => absurd set List.not_mem_nil⟩
  | cons stimulus rest ih =>
      rcases cycle_of_silent_eq same stimulus with
        ⟨cause, leftFaulted, rightFaulted⟩ |
        ⟨leftNext, rightNext, leftDone, rightDone, mute_eq, set_eq⟩
      · have leftIdle := executed_cons_of_error leftFaulted rest
        refine ⟨?_, ?_, ?_, ?_, ?_⟩
        · rw [path_cons_of_error leftFaulted, path_cons_of_error rightFaulted]
        · rw [leftIdle, executed_cons_of_error rightFaulted]
        · rw [run_cons_of_error leftFaulted, run_cons_of_error rightFaulted]
        · intro ran
          exact absurd leftIdle ran
        · intro register set
          rw [leftIdle] at set
          exact absurd set List.not_mem_nil
      · have onward := ih (congrArg clearDirty mute_eq)
        have samePending : left.pending? = right.pending? := by
          rcases exists_recast_of_silent_eq same with ⟨dirty, sound, rfl⟩
          exact (pending?_recast ..).symm
        refine ⟨?_, ?_, ?_, ?_, ?_⟩
        · rw [path_cons_of_ok leftDone, path_cons_of_ok rightDone]
          exact congrArg (· + 1) onward.completed_eq
        · rw [executed_cons_of_ok leftDone, executed_cons_of_ok rightDone, samePending,
            onward.executed_eq]
        · rw [run_cons_of_ok leftDone, run_cons_of_ok rightDone]
          exact onward.fault_eq
        · intro _
          rw [run_cons_of_ok leftDone, run_cons_of_ok rightDone]
          exact mute_run_eq mute_eq rest
        · intro register set
          rw [executed_cons_of_ok leftDone, List.mem_append, Option.mem_toList] at set
          rw [run_cons_of_ok leftDone, run_cons_of_ok rightDone]
          rcases set with setNow | setLater
          · rw [set_eq register setNow]
          · exact onward.eq register setLater

end System

end Chip8
