import Chip8.Proofs.Execution.Unread

/-!
# Recorded randomness

The bytes that a run has sampled are all that its randomness has contributed. A script that begins
with them gives the run over again: the same cycles are completed, the same fault ends them, and the
machine is the same all along, except that its key stays where it was.

In the proof the script has been read up to some place, behind which it goes on with the bytes that
are still to be sampled.
-/

namespace Chip8

namespace Script

/-- The next bytes of a script, taken before it starts over. -/
def Offers (script : Script) (bytes : List UInt8) : Prop :=
  bytes <+: script.bytes.drop script.position

def skip (script : Script) (count : Nat) : Script :=
  { script with position := script.position + count }

variable {script : Script} {byte : UInt8} {bytes others : List UInt8}

theorem skip_skip (script : Script) (first second : Nat) :
    (script.skip first).skip second = script.skip (first + second) := by
  rw [skip, skip, skip, Nat.add_assoc]

theorem Offers.begin (offers : script.Offers (bytes ++ others)) : script.Offers bytes :=
  (List.prefix_append bytes others).trans offers

theorem Offers.skip (offers : script.Offers (bytes ++ others)) :
    (script.skip bytes.length).Offers others := by
  rcases offers with ⟨remaining, split⟩
  refine ⟨remaining, ?_⟩
  have behind := congrArg (List.drop bytes.length) split
  simpa [Script.skip, List.drop_drop] using behind

theorem Offers.byte_eq (offers : script.Offers [byte]) : script.byte = byte := by
  rcases offers with ⟨remaining, split⟩
  have found : script.bytes[script.position]? = some byte := by
    have first := congrArg (·[0]?) split
    simpa using first.symm
  rcases List.getElem?_eq_some_iff.mp found with ⟨inside, eq⟩
  simp [Script.byte, Nat.mod_eq_of_lt inside, eq]

theorem ofInt_toNat (byte : UInt8) : UInt8.ofInt (byte.toNat : Int) = byte := by
  have bound : byte.toNat < 256 := byte.toNat_lt
  apply UInt8.toNat_inj.mp
  rw [UInt8.ofInt, UInt8.toNat_ofNat']
  omega

theorem ofIntegers_eq_ok {values : List Int} (present : values ≠ []) :
    ∃ script, ofIntegers values = .ok script ∧ script.position = 0 ∧
      script.bytes = values.map UInt8.ofInt := by
  have bytesPresent : values.map UInt8.ofInt ≠ [] := by simpa using present
  exact ⟨⟨values.map UInt8.ofInt, 0, bytesPresent⟩, dif_pos bytesPresent, rfl, rfl⟩

end Script

theorem Instruction.eq_random_of_isRandom {instruction : Instruction}
    (sampling : instruction.isRandom) : ∃ target mask, instruction = .random target mask := by
  cases instruction with
  | random target mask => exact ⟨target, mask, rfl⟩
  | _ => contradiction

namespace System

variable {system next : System} {stimulus : Stimulus} {script : Script} {cause : Fault}
  {instruction : Instruction}

theorem sampled?_of_isRandom (pending : system.pending? = some instruction)
    (sampling : instruction.isRandom) : system.sampled? = some system.byte := by
  simp [sampled?, pending, sampling]

theorem sampled?_of_not_isRandom (pending : system.pending? = some instruction)
    (unsampled : ¬instruction.isRandom) : system.sampled? = none := by
  simp [sampled?, pending, unsampled]

theorem sampled_cons_of_ok (completed : system.cycle stimulus = .ok next) (rest : List Stimulus) :
    system.sampled (stimulus :: rest) = system.sampled?.toList ++ next.sampled rest := by
  rw [sampled, path_cons_of_ok completed]
  rcases first : system.sampled? with _ | byte
  · simp [sampled, first]
  · simp [sampled, first]

theorem sampled_cons_of_error (faulted : system.cycle stimulus = .error cause)
    (rest : List Stimulus) : system.sampled (stimulus :: rest) = [] := by
  rw [sampled, path_cons_of_error faulted]
  rfl

/-- No byte is lost to a fault: the instruction that samples one cannot fail. -/
theorem sampled?_eq_none_of_error (faulted : system.cycle stimulus = .error cause) :
    system.sampled? = none := by
  rcases fetched : system.machine.fetch with unfetched | opcode
  · simp [sampled?, pending?_of_fetch_error fetched]
  · rcases decoded : Instruction.decode? opcode.toNat with _ | instruction
    · simp [sampled?, pending?_of_fetch fetched, decoded]
    · apply sampled?_of_not_isRandom ((pending?_of_fetch fetched).trans decoded)
      intro sampling
      rcases Instruction.eq_random_of_isRandom sampling with ⟨target, mask, rfl⟩
      have encoded := Instruction.decode?_eq_some_iff.mp decoded
      have completed : system.cycle stimulus = _ := cycle_of_performs fetched encoded .random
      exact absurd (faulted.symm.trans completed) nofun

/-- The system with a key that is left alone and a script that gives its bytes. -/
def replaying (system : System) (key : WordPair) (script : Script) (rewindable : Bool) : System :=
  system.recast { system.machine.unread with key } (.scripted script rewindable)

theorem after_scripted (instruction : Instruction) (rewindable : Bool)
    (pending : system.pending? = some instruction) :
    RandomSource.after (.scripted script rewindable) instruction =
      .scripted (script.skip system.sampled?.toList.length) rewindable := by
  rw [RandomSource.after]
  split
  case isTrue sampling =>
    rw [sampled?_of_isRandom pending sampling]
    rfl
  case isFalse unsampled =>
    rw [sampled?_of_not_isRandom pending unsampled]
    rfl

theorem afterCycle_scripted (unread : Unread) (source : RandomSource) (key : WordPair)
    (rewindable : Bool) (registers : RegisterFile) (instruction : Instruction) (tick : Bool) :
    { unread with key }.afterCycle (.scripted script rewindable) registers instruction tick =
      { unread.afterCycle source registers instruction tick with key } := by
  cases instruction <;> cases tick <;> rfl

theorem cycle_replaying (system : System) (stimulus : Stimulus) (key : WordPair)
    (rewindable : Bool) (offers : script.Offers system.sampled?.toList) :
    (system.replaying key script rewindable).cycle stimulus =
      (system.cycle stimulus).map
        (·.replaying key (script.skip system.sampled?.toList.length) rewindable) := by
  rcases pending : system.pending? with _ | instruction
  · rcases cycle_recast_of_pending?_eq_none { system.machine.unread with key }
      (.scripted script rewindable) stimulus pending with ⟨cause, faulted, faultedToo⟩
    rw [replaying, faultedToo, faulted]
    rfl
  · have sameByte : instruction.isRandom → script.byte = system.byte := by
      intro sampling
      rw [sampled?_of_isRandom pending sampling] at offers
      exact offers.byte_eq
    have recast : (system.replaying key script rewindable).cycle stimulus = _ :=
      cycle_recast pending sameByte
    rw [recast]
    rcases completed : system.cycle stimulus with cause | next
    · rfl
    · apply congrArg Except.ok
      rw [afterCycle_scripted _ system.source, ← (unread_of_cycle pending completed).1,
        after_scripted instruction rewindable pending]
      rfl

/-- A script that gives the bytes that a run samples gives the run over again, and moves on by as
many bytes. -/
theorem run_replaying (system : System) (stimuli : List Stimulus) (key : WordPair)
    (rewindable : Bool) (offers : script.Offers (system.sampled stimuli)) :
    ((system.replaying key script rewindable).path stimuli).length =
        (system.path stimuli).length ∧
      (system.replaying key script rewindable).run stimuli =
        ((system.run stimuli).1.replaying key (script.skip (system.sampled stimuli).length)
          rewindable, (system.run stimuli).2) := by
  induction stimuli generalizing system script with
  | nil => exact ⟨rfl, rfl⟩
  | cons stimulus rest ih =>
      rcases stepped : system.cycle stimulus with cause | next
      -- A cycle that faults samples nothing, so the script need not offer anything for it.
      · have offersNone : script.Offers system.sampled?.toList := by
          rw [sampled?_eq_none_of_error stepped]
          exact List.nil_prefix
        have replayed : (system.replaying key script rewindable).cycle stimulus = .error cause := by
          rw [cycle_replaying system stimulus key rewindable offersNone, stepped]
          rfl
        rw [path_cons_of_error stepped, path_cons_of_error replayed, run_cons_of_error stepped,
          run_cons_of_error replayed, sampled_cons_of_error stepped]
        exact ⟨rfl, rfl⟩
      · rw [sampled_cons_of_ok stepped] at offers ⊢
        have replayed : (system.replaying key script rewindable).cycle stimulus =
            .ok (next.replaying key (script.skip system.sampled?.toList.length) rewindable) := by
          rw [cycle_replaying system stimulus key rewindable offers.begin, stepped]
          rfl
        rcases ih next offers.skip with ⟨sameLength, ran⟩
        rw [path_cons_of_ok stepped, path_cons_of_ok replayed, run_cons_of_ok stepped,
          run_cons_of_ok replayed, List.length_append, ← Script.skip_skip]
        exact ⟨congrArg (· + 1) sameLength, ran⟩

/-- Record and replay. A script of integers that begins with the bytes that a run has sampled gives
the run over again from the same machine: as many cycles are completed, the fault is the same, and
after any number of the stimuli so is the machine, except for its key, which stays where it was. The
script has then given as many bytes as had been sampled. -/
theorem exists_script_replays (system : System) (stimuli : List Stimulus) (values : List Int)
    (nonempty : values ≠ [])
    (recorded : (system.sampled stimuli).map (fun byte => (byte.toNat : Int)) <+: values) :
    ∃ script, Script.ofIntegers values = .ok script ∧ ∀ rewindable,
      let replay : System := ⟨system.machine, .scripted script rewindable⟩
      (replay.path stimuli).length = (system.path stimuli).length ∧
        ∀ count,
          replay.run (stimuli.take count) =
            (⟨{ (system.run (stimuli.take count)).1.machine with key := system.machine.key },
                .scripted (script.skip (system.sampled (stimuli.take count)).length) rewindable⟩,
              (system.run (stimuli.take count)).2) := by
  rcases Script.ofIntegers_eq_ok nonempty with ⟨script, accepted, fresh, bytes_eq⟩
  have offered : script.Offers (system.sampled stimuli) := by
    have bytes := recorded.map UInt8.ofInt
    have restored :
        ((system.sampled stimuli).map (fun byte => (byte.toNat : Int))).map UInt8.ofInt =
          system.sampled stimuli := by
      simp [Function.comp_def, Script.ofInt_toNat]
    rw [restored, ← bytes_eq] at bytes
    rw [Script.Offers, fresh]
    exact bytes
  refine ⟨script, accepted, fun rewindable => ⟨?_, fun count => ?_⟩⟩
  · exact (run_replaying system stimuli system.machine.key rewindable offered).1
  · have begun := (sampled_take_isPrefix system stimuli count).trans offered
    exact (run_replaying system (stimuli.take count) system.machine.key rewindable begun).2

/-- Two samples from the generator, and a return that fails, since nothing has been called. -/
theorem twoSamples_replays :
    ∃ machine, Machine.boot ⟨0, 42⟩ [0xC0, 0xFF, 0xC1, 0x0F, 0x00, 0xEE] = .ok machine ∧
      let system : System := ⟨machine, .generator⟩
      let stimuli := List.replicate 4 ⟨true, .none⟩
      system.sampled stimuli = [13, 53] ∧ (system.path stimuli).length = 2 ∧
        (system.run stimuli).2 = some .stackUnderflow ∧
        ∃ script, Script.ofIntegers [13, 53, 300] = .ok script ∧
          let replay : System := ⟨machine, .scripted script true⟩
          (replay.path stimuli).length = 2 ∧
            replay.run stimuli =
              (⟨{ (system.run stimuli).1.machine with key := machine.key },
                .scripted (script.skip 2) true⟩, some .stackUnderflow) := by
  have boots : ∃ machine,
      Machine.boot ⟨0, 42⟩ [0xC0, 0xFF, 0xC1, 0x0F, 0x00, 0xEE] = .ok machine := ⟨_, rfl⟩
  rcases boots with ⟨machine, booted⟩
  refine ⟨machine, booted, ?_⟩
  intro system stimuli
  have computed : system.sampled stimuli = [13, 53] ∧ (system.path stimuli).length = 2 ∧
      (system.run stimuli).2 = some .stackUnderflow := by
    cases booted
    decide +kernel
  rcases computed with ⟨sampled, completed, faulted⟩
  rcases exists_script_replays system stimuli [13, 53, 300] (by decide)
      (by rw [sampled]; decide) with
    ⟨script, accepted, replays⟩
  rcases replays true with ⟨sameLength, same⟩
  have whole := same 4
  rw [List.take_of_length_le (by simp [stimuli]), sampled, faulted] at whole
  exact ⟨sampled, completed, faulted, script, accepted, sameLength.trans completed, whole⟩

end System

end Chip8
