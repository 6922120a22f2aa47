import Chip8.Proofs.Execution.Replay

/-!
# Counting the samples of a run

Every random instruction of a run samples one byte, and nothing else does: no other instruction, and
no cycle that faults. So the number of random instructions that have been executed is the number of
steps that the generator's key, or the position of a script, has gone from where it was, and it
tells which byte the next of them is going to store.
-/

namespace Chip8

namespace System

/-- The number of random instructions among the completed cycles of a run. -/
def samples (system : System) (stimuli : List Stimulus) : Nat :=
  (system.executed stimuli).countP Instruction.isRandom

/-- What random bytes are made from: the key of the generator and the source. -/
def randomness (system : System) : WordPair × RandomSource :=
  (system.machine.key, system.source)

end System

namespace RandomSource

/-- What random bytes are made from after one of them has been sampled. -/
def advance (origin : WordPair × RandomSource) : WordPair × RandomSource :=
  (origin.2.nextKey origin.1, origin.2.next)

theorem iterate_advance_generator (key : WordPair) (count : Nat) :
    advance^[count] (key, .generator) = (Threefry.next^[count] key, .generator) := by
  induction count generalizing key with
  | zero => rfl
  | succ count ih => exact ih (Threefry.next key)

theorem iterate_advance_scripted (key : WordPair) (script : Script) (rewindable : Bool)
    (count : Nat) :
    advance^[count] (key, .scripted script rewindable) =
      (key, .scripted (script.skip count) rewindable) := by
  induction count generalizing script with
  | zero => rfl
  | succ count ih =>
      have shifted : script.next.skip count = script.skip (count + 1) := by
        rw [Nat.add_comm, ← Script.skip_skip]
        rfl
      rw [← shifted]
      exact ih script.next

end RandomSource

namespace Script

theorem toNat_ofInt (value : Int) : (UInt8.ofInt value).toNat = (value % 256).toNat := by
  have bound : (value % 256).toNat < 256 := by omega
  simp only [UInt8.ofInt, UInt8.toNat_ofNat']
  exact Nat.mod_eq_of_lt bound

/-- The values of a script go round, and of each of them the low byte is given. -/
theorem exists_value_of_bytes (script : Script) {values : List Int}
    (bytes_eq : script.bytes = values.map UInt8.ofInt) :
    ∃ value, values[script.position % values.length]? = some value ∧
      script.byte.toNat = (value % 256).toNat := by
  have sameLength : script.bytes.length = values.length := by simp [bytes_eq]
  have inside : script.position % values.length < values.length := by
    rw [← sameLength]
    exact Nat.mod_lt _ (List.length_pos_iff.mpr script.nonempty)
  refine ⟨values[script.position % values.length], List.getElem?_eq_getElem inside, ?_⟩
  simp [byte, bytes_eq, toNat_ofInt]

end Script

namespace System

open RandomSource

variable {system next : System} {stimulus : Stimulus} {instruction : Instruction} {cause : Fault}

theorem samples_cons_of_ok (pending : system.pending? = some instruction)
    (completed : system.cycle stimulus = .ok next) (rest : List Stimulus) :
    system.samples (stimulus :: rest) =
      next.samples rest + if instruction.isRandom then 1 else 0 := by
  simp [samples, executed_cons_of_ok completed, pending, List.countP_cons]

theorem samples_cons_of_error (faulted : system.cycle stimulus = .error cause)
    (rest : List Stimulus) : system.samples (stimulus :: rest) = 0 := by
  simp [samples, executed_cons_of_error faulted]

theorem randomness_of_cycle (pending : system.pending? = some instruction)
    (completed : system.cycle stimulus = .ok next) :
    next.randomness =
      if instruction.isRandom then advance system.randomness else system.randomness := by
  rcases unread_of_cycle pending completed with ⟨unread_eq, source_eq⟩
  have key_eq := congrArg Unread.key unread_eq
  change next.machine.key = _ at key_eq
  rw [randomness, key_eq, source_eq]
  cases instruction <;> cases stimulus.tick <;> rfl

/-- A run advances what its random bytes are made from once for each of its random
instructions. -/
theorem randomness_run (system : System) (stimuli : List Stimulus) :
    (system.run stimuli).1.randomness = advance^[system.samples stimuli] system.randomness := by
  induction stimuli generalizing system with
  | nil => rfl
  | cons stimulus rest ih =>
      rcases stepped : system.cycle stimulus with cause | next
      · rw [run_cons_of_error stepped, samples_cons_of_error stepped]
        rfl
      · rcases exists_pending_of_cycle stepped with ⟨instruction, pending⟩
        rw [run_cons_of_ok stepped, samples_cons_of_ok pending stepped, ih,
          randomness_of_cycle pending stepped, Function.iterate_add_apply]
        split
        · rfl
        · rfl

theorem get_of_random_cycle {target : Register} {mask : UInt8}
    (pending : system.pending? = some (.random target mask))
    (completed : system.cycle stimulus = .ok next) :
    next.machine.registers.get target = system.byte &&& mask := by
  rcases exists_performs_pending completed with
    ⟨instruction, performed, pendingToo, performs, rfl⟩
  obtain rfl := Option.some.inj (pending.symm.trans pendingToo)
  cases performs
  rcases stimulus with ⟨tick, input⟩
  cases tick <;> exact (RegisterFile.get_set ..).trans (if_pos rfl)

/-- A random instruction stores the masked byte of what the samples before it have left. -/
theorem get_of_executed_random {stimuli : List Stimulus} {index : Nat} {target : Register}
    {mask : UInt8} (ran : (system.executed stimuli)[index]? = some (.random target mask)) :
    let origin := advance^[system.samples (stimuli.take index)] system.randomness
    (system.run (stimuli.take (index + 1))).1.machine.registers.get target =
      origin.2.byte origin.1 &&& mask := by
  rcases exists_cycle_of_executed ran with
    ⟨before, stimulus, after, reached, pending, completed, left⟩
  have origin_eq := randomness_run system (stimuli.take index)
  rw [reached] at origin_eq
  intro origin
  have byte_eq : before.byte = origin.2.byte origin.1 := by
    simp only [origin, ← origin_eq]
    rfl
  rw [left, get_of_random_cycle pending completed, byte_eq]

theorem not_random_of_error (faulted : system.cycle stimulus = .error cause) (target : Register)
    (mask : UInt8) : system.pending? ≠ some (.random target mask) := by
  intro pending
  have sampled := sampled?_of_isRandom pending rfl
  simp [sampled?_eq_none_of_error faulted] at sampled

/-- Samples are counted exactly. A run with the generator advances the key once for each of its
random instructions, and each of them stores the masked byte of the key that the ones before it have
left.
A run with a script that stands at some position moves the script on by as many values and leaves
the key, and each random instruction stores the masked low byte of the value at which the ones
before it have left the script, which goes round. A cycle with another instruction samples nothing,
and one that faults is never that of a random instruction. -/
theorem samples_are_counted (machine : Machine) (stimuli : List Stimulus) :
    (let system : System := ⟨machine, .generator⟩
     (system.run stimuli).1.machine.key = Threefry.next^[system.samples stimuli] machine.key ∧
      (system.run stimuli).1.source = .generator ∧
      ∀ index target mask, (system.executed stimuli)[index]? = some (.random target mask) →
        (system.run (stimuli.take (index + 1))).1.machine.registers.get target =
          Threefry.byte (Threefry.next^[system.samples (stimuli.take index)] machine.key) &&&
            mask) ∧
    (∀ values : List Int, values ≠ [] → ∀ position rewindable,
      ∃ script, Script.ofIntegers values = .ok script ∧
        let system : System := ⟨machine, .scripted { script with position } rewindable⟩
        (system.run stimuli).1.machine.key = machine.key ∧
          (system.run stimuli).1.source =
            .scripted { script with position := position + system.samples stimuli } rewindable ∧
          ∀ index target mask, (system.executed stimuli)[index]? = some (.random target mask) →
            ∃ value,
              values[(position + system.samples (stimuli.take index)) % values.length]? =
                  some value ∧
                ((system.run (stimuli.take (index + 1))).1.machine.registers.get target).toNat =
                  (value % 256).toNat &&& mask.toNat) ∧
    ∀ (system : System) (stimulus : Stimulus),
      (∀ next, system.cycle stimulus = .ok next →
        (∀ target mask, system.pending? ≠ some (.random target mask)) →
          next.machine.key = system.machine.key ∧ next.source = system.source) ∧
      ∀ cause, system.cycle stimulus = .error cause →
        ∀ target mask, system.pending? ≠ some (.random target mask) := by
  refine ⟨?_, ?_, ?_⟩
  · intro system
    have advanced := randomness_run system stimuli
    simp only [randomness, system, iterate_advance_generator, Prod.mk.injEq] at advanced
    refine ⟨advanced.1, advanced.2, ?_⟩
    intro index target mask ran
    have stored := get_of_executed_random ran
    simp only [randomness, system, iterate_advance_generator] at stored
    exact stored
  · intro values nonempty position rewindable
    rcases Script.ofIntegers_eq_ok nonempty with ⟨script, accepted, _, bytes_eq⟩
    refine ⟨script, accepted, ?_⟩
    intro system
    have advanced := randomness_run system stimuli
    simp only [randomness, system, iterate_advance_scripted, Prod.mk.injEq] at advanced
    refine ⟨advanced.1, advanced.2, ?_⟩
    intro index target mask ran
    have stored := get_of_executed_random ran
    simp only [randomness, system, iterate_advance_scripted] at stored
    let reached := (Script.mk script.bytes position script.nonempty).skip
      (system.samples (stimuli.take index))
    rcases reached.exists_value_of_bytes bytes_eq with ⟨value, found, byte_eq⟩
    refine ⟨value, found, ?_⟩
    rw [stored, UInt8.toNat_and]
    exact congrArg (· &&& mask.toNat) byte_eq
  · intro system stimulus
    constructor
    · intro next completed unsampled
      rcases exists_pending_of_cycle completed with ⟨instruction, pending⟩
      have idle : ¬instruction.isRandom := by
        intro sampling
        rcases Instruction.eq_random_of_isRandom sampling with ⟨target, mask, rfl⟩
        exact unsampled target mask pending
      have kept := randomness_of_cycle pending completed
      simp only [if_neg idle, randomness, Prod.mk.injEq] at kept
      exact kept
    · intro cause faulted
      exact not_random_of_error faulted

/-- Two samples with another instruction between them, and then a word that is no instruction. The
script stands at its second value and starts over between the samples. -/
theorem separateSamples_are_counted :
    ∃ machine, Machine.boot ⟨0, 42⟩ [0xC0, 0xFF, 0x6A, 0x07, 0xC1, 0x0F] = .ok machine ∧
      let stimulus : Stimulus := ⟨true, .none⟩
      let stimuli := List.replicate 3 stimulus
      let generated : System := ⟨machine, .generator⟩
      generated.executed stimuli = [.random 0 0xFF, .setByte 0xA 7, .random 1 0x0F] ∧
        (generated.run stimuli).1.machine.key = Threefry.next^[2] machine.key ∧
        (generated.run stimuli).1.machine.registers.get 1 =
          Threefry.byte (Threefry.next^[1] machine.key) &&& 0x0F ∧
        (∃ cause, (generated.run stimuli).1.cycle stimulus = .error cause ∧
          ∀ target mask, (generated.run stimuli).1.pending? ≠ some (.random target mask)) ∧
        ∃ script, Script.ofIntegers [300, -1] = .ok script ∧
          let scripted : System := ⟨machine, .scripted { script with position := 5 } true⟩
          (scripted.run stimuli).1.machine.key = machine.key ∧
            (scripted.run stimuli).1.source = .scripted { script with position := 7 } true ∧
            ((scripted.run stimuli).1.machine.registers.get 1).toNat = 12 := by
  have boots : ∃ machine,
      Machine.boot ⟨0, 42⟩ [0xC0, 0xFF, 0x6A, 0x07, 0xC1, 0x0F] = .ok machine := ⟨_, rfl⟩
  rcases boots with ⟨machine, booted⟩
  refine ⟨machine, booted, ?_⟩
  intro stimulus stimuli
  dsimp only
  rcases samples_are_counted machine stimuli with ⟨generates, scripts, others⟩
  rcases scripts [300, -1] (by decide) 5 true with ⟨script, accepted, key_eq, source_eq, stores⟩
  have generated : System.executed ⟨machine, .generator⟩ stimuli =
        [.random 0 0xFF, .setByte 0xA 7, .random 1 0x0F] ∧
      System.samples ⟨machine, .generator⟩ stimuli = 2 ∧
      System.samples ⟨machine, .generator⟩ (stimuli.take 2) = 1 ∧
      (System.run ⟨machine, .generator⟩ stimuli).1.cycle stimulus =
        .error (.invalidOpcode 0 (some 0x206)) := by
    cases booted
    decide +kernel
  rcases generated with ⟨executed_eq, twice, once, faults⟩
  have whole : stimuli.take (2 + 1) = stimuli := rfl
  have key_advanced := generates.1
  have stored := generates.2.2 2 1 0x0F (by simp [executed_eq])
  rw [twice] at key_advanced
  rw [once, whole] at stored
  refine ⟨executed_eq, key_advanced, stored, ⟨_, faults, (others _ _).2 _ faults⟩, ?_⟩
  have scripted : System.executed ⟨machine, .scripted { script with position := 5 } true⟩ stimuli =
        [.random 0 0xFF, .setByte 0xA 7, .random 1 0x0F] ∧
      System.samples ⟨machine, .scripted { script with position := 5 } true⟩ stimuli = 2 ∧
      System.samples ⟨machine, .scripted { script with position := 5 } true⟩
        (stimuli.take 2) = 1 := by
    cases booted
    cases accepted
    decide +kernel
  rcases scripted with ⟨executedToo, twiceToo, onceToo⟩
  rcases stores 2 1 0x0F (by simp [executedToo]) with ⟨value, found, taken⟩
  rw [onceToo] at found
  rw [twiceToo] at source_eq
  rw [whole] at taken
  obtain rfl : 300 = value := by simpa using found
  exact ⟨script, accepted, key_eq, source_eq, taken⟩

end System

end Chip8
