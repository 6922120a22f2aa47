import Chip8.Proofs.Execution.Samples
import Chip8.Proofs.Keypad.History

/-!
# What a program consults

Three instructions ask for keys and one samples a random byte. As long as a run comes to none of the
three, it does not matter what the keys are, and as long as it comes to no random instruction it
does not matter where random bytes would have come from. A cycle that faults counts among those that
ask for keys, since whether it faults may depend on the answer; sampling a byte never faults.
-/

namespace Chip8

namespace Instruction

def asksForKey : Instruction → Bool
  | .skipIf (.keyDown _) | .skipIf (.keyUp _) | .awaitKey _ => true
  | _ => false

end Instruction

theorem Machine.perform_of_not_asksForKey {instruction : Instruction}
    (unasked : ¬instruction.asksForKey) (machine : Machine) (input other : Input) (byte : UInt8) :
    machine.perform input byte instruction = machine.perform other byte instruction := by
  cases instruction with
  | skipIf condition =>
      cases condition with
      | keyDown register | keyUp register => exact absurd rfl unasked
      | _ => rfl
  | awaitKey target => exact absurd rfl unasked
  | _ => rfl

namespace System

/-- The instructions that a run comes to: those of its completed cycles and, if it ends in a fault,
the one at which it does. -/
def attempted (system : System) : List Stimulus → List Instruction
  | [] => []
  | stimulus :: rest =>
      system.pending?.toList ++
        (system.cycle stimulus).toOption.elim [] fun next => next.attempted rest

variable {system next : System} {stimulus other : Stimulus} {cause : Fault}

theorem attempted_cons_of_ok (completed : system.cycle stimulus = .ok next)
    (rest : List Stimulus) :
    system.attempted (stimulus :: rest) = system.pending?.toList ++ next.attempted rest := by
  rw [attempted, completed]
  rfl

theorem attempted_cons_of_error (faulted : system.cycle stimulus = .error cause)
    (rest : List Stimulus) : system.attempted (stimulus :: rest) = system.pending?.toList := by
  rw [attempted, faulted]
  exact List.append_nil _

/-- A cycle whose instruction does not ask for keys does the same whatever the keys are. -/
theorem cycle_of_not_asksForKey
    (unasked : ∀ instruction ∈ system.pending?, ¬instruction.asksForKey)
    (sameTick : stimulus.tick = other.tick) : system.cycle stimulus = system.cycle other := by
  rcases fetched : system.machine.fetch with cause | opcode
  · rw [cycle_of_fetch_error fetched, cycle_of_fetch_error fetched]
  · rw [cycle_of_fetch fetched, cycle_of_fetch fetched, sameTick]
    rw [pending?_of_fetch fetched] at unasked
    rcases decoded : Instruction.decode? opcode.toNat with _ | instruction
    · simp only [execute, decoded]
    · have unaskedOne := unasked instruction decoded
      simp only [execute, decoded, perform,
        Machine.perform_of_not_asksForKey unaskedOne _ stimulus.input other.input]

/-- The same machine with another source of random bytes. -/
def withSource (system : System) (source : RandomSource) : System :=
  { system with source }

/-- A cycle that samples no byte does the same whatever the source is, and leaves it alone. -/
theorem cycle_withSource (unsampled : ∀ instruction ∈ system.pending?, ¬instruction.isRandom)
    (source : RandomSource) (stimulus : Stimulus) :
    (system.withSource source).cycle stimulus =
      (system.cycle stimulus).map (·.withSource source) := by
  have recast_eq : system.withSource source = system.recast system.machine.unread source := rfl
  rcases pending : system.pending? with _ | instruction
  · rcases cycle_recast_of_pending?_eq_none system.machine.unread source stimulus pending with
      ⟨cause, faulted, faultedToo⟩
    rw [recast_eq, faultedToo, faulted]
    rfl
  · have idle : ¬instruction.isRandom := unsampled instruction pending
    have recast : (system.recast system.machine.unread source).cycle stimulus = _ :=
      cycle_recast pending fun sampling => absurd sampling idle
    rw [recast_eq, recast]
    rcases completed : system.cycle stimulus with cause | next
    · rfl
    · have unread_eq := (unread_of_cycle pending completed).1
      have sameUnread : system.machine.unread.afterCycle source system.machine.registers
          instruction stimulus.tick = next.machine.unread := by
        rw [unread_eq]
        cases instruction with
        | random target mask => exact absurd rfl idle
        | _ => rfl
      apply congrArg Except.ok
      rw [sameUnread, RandomSource.after, if_neg idle]
      rfl

/-- If cycles with allowed instructions do to images what they do to the systems themselves, then so
does a run that comes to no other instructions. -/
theorem path_and_run_image (image : System → System) {answer : Stimulus → Stimulus → Prop}
    {allowed : Instruction → Prop}
    (step : ∀ system stimulus other, answer stimulus other →
      (∀ instruction ∈ system.pending?, allowed instruction) →
        (image system).cycle other = (system.cycle stimulus).map image)
    {stimuli others : List Stimulus} (answered : List.Forall₂ answer stimuli others)
    (onlyAllowed : ∀ instruction ∈ system.attempted stimuli, allowed instruction) :
    (image system).path others = (system.path stimuli).map image ∧
      (image system).run others = (image (system.run stimuli).1, (system.run stimuli).2) := by
  induction answered generalizing system with
  | nil => exact ⟨rfl, rfl⟩
  | @cons stimulus other rest others now later ih =>
      have allowedNow : ∀ instruction ∈ system.pending?, allowed instruction := by
        intro instruction pending
        apply onlyAllowed
        simp only [attempted, List.mem_append, Option.mem_toList]
        exact .inl pending
      -- The two cycles are completed or fault together, and so the two runs keep in step.
      have imaged := step system stimulus other now allowedNow
      rcases stepped : system.cycle stimulus with cause | next
      · rw [stepped] at imaged
        simp [path_cons_of_error stepped, path_cons_of_error imaged, run_cons_of_error stepped,
          run_cons_of_error imaged]
      · rw [stepped] at imaged
        have allowedLater : ∀ instruction ∈ next.attempted rest, allowed instruction := by
          intro instruction among
          apply onlyAllowed
          simp only [attempted_cons_of_ok stepped, List.mem_append]
          exact .inr among
        simp [path_cons_of_ok stepped, path_cons_of_ok imaged, run_cons_of_ok stepped,
          run_cons_of_ok imaged, ih allowedLater]

theorem path_and_run_of_not_asksForKey {stimuli others : List Stimulus}
    (sameTicks : stimuli.map Stimulus.tick = others.map Stimulus.tick)
    (unasked : ∀ instruction ∈ system.attempted stimuli, ¬instruction.asksForKey) :
    system.path others = system.path stimuli ∧ system.run others = system.run stimuli := by
  have answered : List.Forall₂ (fun stimulus other => stimulus.tick = other.tick)
      stimuli others := by
    rw [← List.forall₂_eq_eq_eq, List.forall₂_map_left_iff, List.forall₂_map_right_iff]
      at sameTicks
    exact sameTicks
  have sameCycles : ∀ (system : System) (stimulus other : Stimulus), stimulus.tick = other.tick →
      (∀ instruction ∈ system.pending?, ¬instruction.asksForKey) →
        system.cycle other = (system.cycle stimulus).map id := by
    intro system stimulus other sameTick unaskedNow
    rw [cycle_of_not_asksForKey unaskedNow sameTick]
    rcases system.cycle other with cause | next
    · rfl
    · rfl
  simpa using path_and_run_image id sameCycles answered unasked

/-- An instruction that samples a byte is completed, so a run executes those that it comes to. -/
theorem mem_executed_of_isRandom {instruction : Instruction} (sampling : instruction.isRandom)
    {stimuli : List Stimulus} (reached : instruction ∈ system.attempted stimuli) :
    instruction ∈ system.executed stimuli := by
  induction stimuli generalizing system with
  | nil => exact absurd reached List.not_mem_nil
  | cons stimulus rest ih =>
      rcases stepped : system.cycle stimulus with cause | next
      · rcases Instruction.eq_random_of_isRandom sampling with ⟨target, mask, rfl⟩
        rw [attempted_cons_of_error stepped, Option.mem_toList] at reached
        exact absurd reached (not_random_of_error stepped target mask)
      · rw [attempted_cons_of_ok stepped, List.mem_append] at reached
        rw [executed_cons_of_ok stepped, List.mem_append]
        exact reached.imp id ih

theorem path_and_run_withSource {stimuli : List Stimulus}
    (unsampled : ∀ instruction ∈ system.executed stimuli, ¬instruction.isRandom)
    (source : RandomSource) :
    (system.withSource source).path stimuli = (system.path stimuli).map (·.withSource source) ∧
      (system.withSource source).run stimuli =
        ((system.run stimuli).1.withSource source, (system.run stimuli).2) := by
  have answered : List.Forall₂ Eq stimuli stimuli := by rw [List.forall₂_eq_eq_eq]
  have unsampledAttempts : ∀ instruction ∈ system.attempted stimuli, ¬instruction.isRandom := by
    intro instruction reached sampling
    exact unsampled instruction (mem_executed_of_isRandom sampling reached) sampling
  refine path_and_run_image (·.withSource source) ?_ answered unsampledAttempts
  rintro system stimulus _ rfl unsampledNow
  exact cycle_withSource unsampledNow source stimulus

/-- The keypad and the source of random bytes are consulted only where the instruction set says so.
A run that comes to no instruction that asks for keys is the same run with any other keys, one that
executes no random instruction is the same run with any other source, which it leaves as it was, and
every run is the same on keypads without a held key, whatever has been done to them, as without a
keypad. -/
theorem consults_only_where_asked (system : System) (stimuli : List Stimulus) :
    (∀ others : List Stimulus, stimuli.map Stimulus.tick = others.map Stimulus.tick →
      (∀ instruction ∈ system.attempted stimuli, ¬instruction.asksForKey) →
        system.path others = system.path stimuli ∧ system.run others = system.run stimuli) ∧
    (∀ source : RandomSource,
      (∀ instruction ∈ system.executed stimuli, ¬instruction.isRandom) →
        (system.withSource source).path stimuli =
            (system.path stimuli).map (·.withSource source) ∧
          (system.withSource source).run stimuli =
            ((system.run stimuli).1.withSource source, (system.run stimuli).2)) ∧
    ((∀ stimulus ∈ stimuli, ∃ numbers keypad events, Keypad.ofNumbers numbers = .ok keypad ∧
        (keypad.after events).Idle ∧ stimulus.input = (keypad.after events).toInput) →
      let unattended := stimuli.map fun stimulus => { stimulus with input := .none }
      system.path stimuli = system.path unattended ∧
        system.run stimuli = system.run unattended) := by
  refine ⟨?_, ?_, ?_⟩
  · intro others sameTicks unasked
    exact path_and_run_of_not_asksForKey sameTicks unasked
  · intro source unsampled
    exact path_and_run_withSource unsampled source
  · intro idle unattended
    have same : unattended = stimuli := by
      refine (List.map_congr_left ?_).trans (List.map_id stimuli)
      intro stimulus among
      rcases idle stimulus among with ⟨numbers, keypad, events, accepted, noneHeld, input_eq⟩
      have held := (Keypad.LatestHeld.ofNumbers accepted).after events
      rw [← held.toInput_eq_none noneHeld, ← input_eq]
      rfl
    rw [same]
    exact ⟨rfl, rfl⟩

/-- A program that puts a byte into a register and then waits for a key. The key that the host had
pressed has been released again, and a key that does not exist has been refused. -/
theorem awaitingKey_consults :
    ∃ machine, Machine.boot ⟨0, 7⟩ [0x6A, 0x07, 0xF0, 0x0A] = .ok machine ∧
      let system : System := ⟨machine, .generator⟩
      let holding := (Keypad.empty.press 3).toInput
      (∀ instruction ∈ system.attempted [⟨true, .none⟩], ¬instruction.asksForKey) ∧
        system.run [⟨true, holding⟩] = system.run [⟨true, .none⟩] ∧
        (∀ instruction ∈ system.executed [⟨true, .none⟩], ¬instruction.isRandom) ∧
        (∃ script, Script.ofIntegers [300] = .ok script ∧
          ((system.withSource (.scripted script true)).run [⟨true, .none⟩]).1.source =
            .scripted script true) ∧
        ∃ keypad, Keypad.ofNumbers [3] = .ok keypad ∧
          (keypad.after [.press 99, .release 3]).Idle ∧
          let released := (keypad.after [.press 99, .release 3]).toInput
          system.run [⟨true, released⟩, ⟨false, released⟩] =
            system.run [⟨true, .none⟩, ⟨false, .none⟩] := by
  have boots : ∃ machine,
      Machine.boot ⟨0, 7⟩ [0x6A, 0x07, 0xF0, 0x0A] = .ok machine := ⟨_, rfl⟩
  rcases boots with ⟨machine, booted⟩
  refine ⟨machine, booted, ?_⟩
  dsimp only
  have unasked : ∀ instruction ∈ System.attempted ⟨machine, .generator⟩ [⟨true, .none⟩],
      ¬instruction.asksForKey := by
    cases booted
    decide +kernel
  have unsampled : ∀ instruction ∈ System.executed ⟨machine, .generator⟩ [⟨true, .none⟩],
      ¬instruction.isRandom := by
    cases booted
    decide +kernel
  rcases consults_only_where_asked ⟨machine, .generator⟩ [⟨true, .none⟩] with
    ⟨anyKeys, anySource, _⟩
  have sameRun := (anyKeys [⟨true, (Keypad.empty.press 3).toInput⟩] rfl unasked).2
  have nonempty : ([300] : List Int) ≠ [] := by decide
  rcases Script.ofIntegers_eq_ok nonempty with ⟨script, accepted, _⟩
  have scriptedRun := (anySource (.scripted script true) unsampled).2
  refine ⟨unasked, sameRun, unsampled, ⟨script, accepted, congrArg (·.1.source) scriptedRun⟩, ?_⟩
  have made : ∃ keypad, Keypad.ofNumbers [3] = .ok keypad := ⟨_, rfl⟩
  rcases made with ⟨keypad, pressed⟩
  have idle : (keypad.after [.press 99, .release 3]).Idle := by
    cases pressed
    unfold Keypad.Idle
    decide +kernel
  refine ⟨keypad, pressed, idle, ?_⟩
  have unattended := (consults_only_where_asked ⟨machine, .generator⟩
    [⟨true, (keypad.after [.press 99, .release 3]).toInput⟩,
      ⟨false, (keypad.after [.press 99, .release 3]).toInput⟩]).2.2
  refine (unattended ?_).2
  intro stimulus among
  refine ⟨[3], keypad, [.press 99, .release 3], pressed, idle, ?_⟩
  simp only [List.mem_cons, List.not_mem_nil, or_false] at among
  rcases among with rfl | rfl
  · rfl
  · rfl

end System

end Chip8
