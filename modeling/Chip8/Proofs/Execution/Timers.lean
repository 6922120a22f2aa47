import Chip8.Proofs.Execution.Frame
import Chip8.Proofs.Execution.History

/-!
# The history of a timer

A timer is set by one instruction and otherwise only counts ticks. So after a run it holds what it
was last set to, less the ticks since then, and what it held before, less all ticks, if it was never
set; below zero it does not count. The tick of the cycle that sets it counts as well, because the
timers tick behind the instruction.
-/

namespace Chip8

/-- The two timers of a machine. -/
inductive TimerKind where
  | delay
  | sound

/-- The instruction that sets a timer from a register. -/
def TimerKind.setter : TimerKind → Register → Instruction
  | .delay, source => .setDelay source
  | .sound, source => .setSound source

theorem Timer.isActive_iff (timer : Timer) : timer.isActive = true ↔ timer.value ≠ 0 := by
  simp only [isActive, decide_eq_true_eq, UInt8.lt_iff_toNat_lt, ne_eq, ← UInt8.toNat_inj]
  exact Nat.pos_iff_ne_zero

namespace Machine

def timer (machine : Machine) : TimerKind → Timer
  | .delay => machine.delay
  | .sound => machine.sound

variable {machine next : Machine} {input : Input} {byte : UInt8} {instruction : Instruction}
  {kind : TimerKind}

theorem Performs.timer_eq (performs : machine.Performs input byte instruction next)
    (unset : ∀ source, instruction ≠ kind.setter source) :
    next.timer kind = machine.timer kind := by
  cases kind with
  | delay => exact performs.delay_eq unset
  | sound => exact performs.sound_eq unset

theorem Performs.timer_setter {source : Register}
    (performs : machine.Performs input byte (kind.setter source) next) :
    next.timer kind = ⟨machine.registers.get source⟩ := by
  cases kind with
  | delay =>
      cases performs
      rfl
  | sound =>
      cases performs
      rfl

end Machine

namespace System

variable {system next last : System} {stimulus : Stimulus} {stimuli : List Stimulus}
  {instruction : Instruction} {kind : TimerKind}

/-- The number that a timer of a system shows. -/
def reading (system : System) (kind : TimerKind) : Nat :=
  (system.machine.timer kind).value.toNat

/-- A cycle lowers a timer by its tick, after the instruction has been performed. -/
theorem exists_performs_reading (pending : system.pending? = some instruction)
    (completed : system.cycle stimulus = .ok next) (kind : TimerKind) :
    ∃ key performed,
      { system.clearDirty.machine with key }.Performs stimulus.input system.byte instruction
          performed ∧
        next.reading kind = (performed.timer kind).value.toNat - stimulus.tick.toNat := by
  rcases exists_performs_pending completed with
    ⟨other, performed, pendingToo, performs, rfl⟩
  obtain rfl := Option.some.inj (pending.symm.trans pendingToo)
  rcases exists_key_supply system.clearDirty instruction with ⟨key, supplied⟩
  refine ⟨key, performed, supplied ▸ performs, ?_⟩
  rcases stimulus with ⟨_ | _, input⟩
  · rfl
  · cases kind with
    | delay => exact Timer.toNat_value_tick performed.delay
    | sound => exact Timer.toNat_value_tick performed.sound

theorem reading_of_unset_cycle (pending : system.pending? = some instruction)
    (unset : ∀ source, instruction ≠ kind.setter source)
    (completed : system.cycle stimulus = .ok next) :
    next.reading kind = system.reading kind - stimulus.tick.toNat := by
  rcases exists_performs_reading pending completed kind with
    ⟨key, performed, performs, ticked⟩
  rw [ticked, performs.timer_eq unset]
  cases kind <;> rfl

theorem reading_of_setting_cycle {source : Register}
    (pending : system.pending? = some (kind.setter source))
    (completed : system.cycle stimulus = .ok next) :
    next.reading kind =
      (system.machine.registers.get source).toNat - stimulus.tick.toNat := by
  rcases exists_performs_reading pending completed kind with
    ⟨key, performed, performs, ticked⟩
  rw [ticked, performs.timer_setter]
  rfl

/-- A run that never sets a timer lowers it by its ticks. -/
theorem reading_of_unset_run (completed : system.run stimuli = (last, none))
    (unset : ∀ source, kind.setter source ∉ system.executed stimuli) :
    last.reading kind = system.reading kind - stimuli.countP Stimulus.tick := by
  induction stimuli generalizing system with
  | nil =>
      simp only [run, Prod.mk.injEq, and_true] at completed
      simp [completed]
  | cons stimulus rest ih =>
      rcases run_cons_completed_iff.mp completed with ⟨next, stepped, restCompleted⟩
      rcases exists_pending_of_cycle stepped with ⟨instruction, pending⟩
      simp only [executed_cons_of_ok stepped, pending, Option.toList_some,
        List.singleton_append, List.mem_cons, not_or] at unset
      have first : next.reading kind = system.reading kind - stimulus.tick.toNat :=
        reading_of_unset_cycle pending (fun source same => (unset source).1 same.symm) stepped
      have others := ih restCompleted (fun source => (unset source).2)
      rw [others, first, Nat.sub_sub, countP_tick_cons]

/-- A value is what is left of a timer at the end of a run. -/
structure RunsDown (system : System) (kind : TimerKind) (stimuli : List Stimulus)
    (value : UInt8) : Prop where
  /-- If the timer is never set, each tick has taken one from what it held at the start. -/
  unset : (∀ source, kind.setter source ∉ system.executed stimuli) →
    value.toNat = system.reading kind - stimuli.countP Stimulus.tick
  /-- The last cycle that has set the timer has put the register of that moment into it, and each
  tick from this cycle on has taken one. -/
  set : ∀ index source before,
    (system.executed stimuli)[index]? = some (kind.setter source) →
    (∀ other, kind.setter other ∉ (system.executed stimuli).drop (index + 1)) →
    system.run (stimuli.take index) = (before, none) →
      value.toNat =
        (before.machine.registers.get source).toNat - (stimuli.drop index).countP Stimulus.tick

theorem runsDown_of_run (completed : system.run stimuli = (last, none)) (kind : TimerKind) :
    system.RunsDown kind stimuli (last.machine.timer kind).value where
  unset := reading_of_unset_run completed
  set := by
    intro index source before setting lastSetting reached
    rcases exists_rest_of_executed setting reached with
      ⟨stimulus, after, drop_eq, pending, stepped, rest, rest_eq⟩
    have start : after.reading kind =
        (before.machine.registers.get source).toNat - stimulus.tick.toNat :=
      reading_of_setting_cycle pending stepped
    -- Behind the last setting the run only ticks.
    have lowered := reading_of_unset_run (rest.trans completed) (rest_eq ▸ lastSetting)
    rw [drop_eq, countP_tick_cons, ← Nat.sub_sub, ← start]
    exact lowered

theorem get_of_readDelay_cycle {target : Register}
    (pending : system.pending? = some (.readDelay target))
    (completed : system.cycle stimulus = .ok next) :
    next.machine.registers.get target = system.machine.delay.value := by
  rcases exists_performs_pending completed with ⟨instruction, performed, pendingToo, performs, rfl⟩
  obtain rfl := Option.some.inj (pending.symm.trans pendingToo)
  cases performs
  rcases stimulus with ⟨_ | _, input⟩ <;> exact (RegisterFile.get_set ..).trans (if_pos rfl)

/-- At the end of a run each timer holds what it was last set to, or held at the start if it was
never set, less the ticks since then, whatever becomes of the other timer. An instruction that reads
the delay timer gets what the cycles before it have left of it. And a timer is active as long as it
is not zero. -/
theorem timers_follow_history (completed : system.run stimuli = (last, none)) :
    (∀ kind, system.RunsDown kind stimuli (last.machine.timer kind).value) ∧
    (∀ index target, (system.executed stimuli)[index]? = some (.readDelay target) →
      system.RunsDown .delay (stimuli.take index)
        ((system.run (stimuli.take (index + 1))).1.machine.registers.get target)) ∧
    ∀ timer : Timer, timer.isActive = true ↔ timer.value ≠ 0 := by
  refine ⟨runsDown_of_run completed, ?_, Timer.isActive_iff⟩
  intro index target reading
  rcases exists_cycle_of_executed reading with
    ⟨before, stimulus, after, reached, pending, stepped, left⟩
  rw [left, get_of_readDelay_cycle pending stepped]
  exact runsDown_of_run reached .delay

/-- The delay timer is set in a cycle that ticks and the sound timer in one that does not; then the
delay timer is read before the last tick. -/
theorem setTimers_history :
    ∃ machine, Machine.boot ⟨0, 7⟩ [0x60, 0x05, 0xF0, 0x15, 0xF0, 0x18, 0xF1, 0x07] =
        .ok machine ∧
      let system : System := ⟨machine, .generator⟩
      let stimuli : List Stimulus := [true, true, false, true].map (⟨·, .none⟩)
      ∃ last, system.run stimuli = (last, none) ∧
        system.executed stimuli = [.setByte 0 5, .setDelay 0, .setSound 0, .readDelay 1] ∧
        last.machine.delay.value.toNat = 3 ∧ last.machine.sound.value.toNat = 4 ∧
        (last.machine.registers.get 1).toNat = 4 := by
  have boots : ∃ machine,
      Machine.boot ⟨0, 7⟩ [0x60, 0x05, 0xF0, 0x15, 0xF0, 0x18, 0xF1, 0x07] = .ok machine :=
    ⟨_, rfl⟩
  rcases boots with ⟨machine, booted⟩
  refine ⟨machine, booted, ?_⟩
  intro system stimuli
  have computed : (system.run stimuli).2 = none ∧ (system.run (stimuli.take 1)).2 = none ∧
      (system.run (stimuli.take 2)).2 = none ∧
      system.executed stimuli = [.setByte 0 5, .setDelay 0, .setSound 0, .readDelay 1] ∧
      system.executed (stimuli.take 3) = [.setByte 0 5, .setDelay 0, .setSound 0] ∧
      (system.run (stimuli.take 1)).1.machine.registers.get 0 = 5 ∧
      (system.run (stimuli.take 2)).1.machine.registers.get 0 = 5 := by
    cases booted
    decide +kernel
  rcases ran : system.run stimuli with ⟨last, outcome⟩
  rcases ranFirst : system.run (stimuli.take 1) with ⟨beforeDelay, firstOutcome⟩
  rcases ranSecond : system.run (stimuli.take 2) with ⟨beforeSound, secondOutcome⟩
  simp only [ran, ranFirst, ranSecond] at computed
  rcases computed with ⟨rfl, rfl, rfl, executed_eq, earlier_eq, delayByte, soundByte⟩
  refine ⟨last, rfl, executed_eq, ?_⟩
  rcases timers_follow_history ran with ⟨shown, read, _⟩
  have delay := (shown .delay).set 1 0 _ (by simp [executed_eq, TimerKind.setter])
    (by simp [executed_eq, TimerKind.setter]) ranFirst
  have sound := (shown .sound).set 2 0 _ (by simp [executed_eq, TimerKind.setter])
    (by simp [executed_eq, TimerKind.setter]) ranSecond
  have loaded := (read 3 1 (by simp [executed_eq])).set 1 0 _
    (by simp [earlier_eq, TimerKind.setter]) (by simp [earlier_eq, TimerKind.setter]) ranFirst
  have whole : stimuli.take (3 + 1) = stimuli := rfl
  rw [delayByte] at delay
  rw [soundByte] at sound
  rw [whole, ran, delayByte] at loaded
  exact ⟨by simpa [stimuli, Machine.timer] using delay,
    by simpa [stimuli, Machine.timer] using sound, by simpa [stimuli] using loaded⟩

end System

end Chip8
