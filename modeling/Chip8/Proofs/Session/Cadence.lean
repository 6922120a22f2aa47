import Chip8.Proofs.Execution.Effects
import Chip8.Proofs.Session.Cycles

/-!
# Frames are cycles in a row

Running frames is running their cycles: one after another, with a tick on every cycle whose number
is a multiple of the length of a frame, up to the first cycle that fails. So it does not matter how
a host divides a number of frames into requests. As long as nothing fails, every frame brings the
timers one tick.
-/

namespace Chip8

/-- The stimuli of a number of cycles, of which the first one of each frame ticks. -/
def cadence (cyclesPerFrame : Nat) (input : Input) (cycles : Nat) : List Stimulus :=
  (List.range cycles).map fun index => ⟨decide (index % cyclesPerFrame = 0), input⟩

@[simp]
theorem length_cadence (cyclesPerFrame : Nat) (input : Input) (cycles : Nat) :
    (cadence cyclesPerFrame input cycles).length = cycles := by
  simp [cadence]

/-- A frame after which the pattern begins again. -/
theorem cadence_add (cyclesPerFrame : Nat) (input : Input) (cycles : Nat) :
    cadence cyclesPerFrame input (cyclesPerFrame + cycles) =
      cadence cyclesPerFrame input cyclesPerFrame ++ cadence cyclesPerFrame input cycles := by
  simp [cadence, List.range_add, Function.comp_def]

theorem cadence_succ_mul (cyclesPerFrame : Nat) (input : Input) (frames : Nat) :
    cadence cyclesPerFrame input ((frames + 1) * cyclesPerFrame) =
      cadence cyclesPerFrame input cyclesPerFrame ++
        cadence cyclesPerFrame input (frames * cyclesPerFrame) := by
  rw [Nat.succ_mul, Nat.add_comm, cadence_add]

theorem cadence_self (cyclesPerFrame : Nat) (input : Input) :
    cadence cyclesPerFrame input cyclesPerFrame =
      (List.range cyclesPerFrame).map fun index => ⟨decide (index = 0), input⟩ := by
  apply List.map_congr_left
  intro index inside
  rw [List.mem_range] at inside
  rw [Nat.mod_eq_of_lt inside]

theorem countP_tick_cadence_self {cyclesPerFrame : Nat} (positive : 0 < cyclesPerFrame)
    (input : Input) : (cadence cyclesPerFrame input cyclesPerFrame).countP Stimulus.tick = 1 := by
  obtain ⟨others, rfl⟩ := Nat.exists_eq_succ_of_ne_zero (Nat.ne_of_gt positive)
  simp [cadence_self, List.range_succ_eq_map, List.countP_eq_zero]

theorem countP_tick_cadence {cyclesPerFrame : Nat} (positive : 0 < cyclesPerFrame) (input : Input)
    (frames : Nat) :
    (cadence cyclesPerFrame input (frames * cyclesPerFrame)).countP Stimulus.tick = frames := by
  induction frames with
  | zero => simp [cadence]
  | succ frames ih =>
      rw [cadence_succ_mul, List.countP_append, countP_tick_cadence_self positive, ih, Nat.add_comm]

namespace System

/-- A system becomes another one through a number of cycles without ticks and a number of ticks of
both timers. -/
inductive Elapses (last : System) : System → (cycles ticks : Nat) → Prop where
  | done : Elapses last last 0 0
  | cycle {system next : System} {cycles ticks : Nat} (input : Input)
      (completed : system.cycle ⟨false, input⟩ = .ok next)
      (rest : Elapses last next cycles ticks) : Elapses last system (cycles + 1) ticks
  | tick {system : System} {cycles ticks : Nat}
      (rest : Elapses last { system with machine := system.machine.tick } cycles ticks) :
      Elapses last system cycles (ticks + 1)

theorem cycle_tick {system next : System} {input : Input}
    (completed : system.cycle ⟨true, input⟩ = .ok next) :
    ∃ untimed, system.cycle ⟨false, input⟩ = .ok untimed ∧
      next = { untimed with machine := untimed.machine.tick } := by
  rcases cycle_eq_ok_iff.mp completed with ⟨opcode, fetched, executed, execution, rfl⟩
  exact ⟨executed, cycle_eq_ok_iff.mpr ⟨opcode, fetched, executed, execution, rfl⟩, rfl⟩

theorem elapses_of_run {system last : System} {stimuli : List Stimulus}
    (completed : system.run stimuli = (last, none)) :
    Elapses last system stimuli.length (stimuli.countP Stimulus.tick) := by
  induction stimuli generalizing system with
  | nil =>
      rw [run, Prod.mk.injEq] at completed
      rw [completed.1]
      exact .done
  | cons stimulus rest ih =>
      rcases run_cons_completed_iff.mp completed with ⟨next, stepped, restCompleted⟩
      have elapses := ih restCompleted
      rcases stimulus with ⟨_ | _, input⟩
      · simpa using Elapses.cycle input stepped elapses
      · rcases cycle_tick stepped with ⟨untimed, untimedStepped, rfl⟩
        simpa using Elapses.cycle input untimedStepped elapses.tick

end System

namespace Session

variable {session next last : Session} {input : Input}

theorem of_cycle_ok {stimulus : Stimulus} (completed : session.cycle stimulus = (next, .ok ())) :
    ∃ system, session.system.cycle stimulus = .ok system ∧ next = session.complete system := by
  rcases halted : session.fault with _ | cause
  · rcases stepped : session.system.cycle stimulus with cause | system
    · simp [cycle_of_faulted halted stepped] at completed
    · rw [cycle_of_completed halted stepped] at completed
      exact ⟨system, rfl, (Prod.ext_iff.mp completed).1.symm⟩
  · simp [cycle_of_halted halted] at completed

theorem cycle_cyclesPerFrame (session : Session) (stimulus : Stimulus) :
    (session.cycle stimulus).1.cyclesPerFrame = session.cyclesPerFrame :=
  cycle_preserves (fun later => later.cyclesPerFrame = session.cyclesPerFrame) rfl
    (fun _ _ => rfl) fun _ _ => rfl

theorem run_cyclesPerFrame (session : Session) (stimuli : List Stimulus) :
    (session.run stimuli).1.cyclesPerFrame = session.cyclesPerFrame := by
  induction stimuli generalizing session with
  | nil => rfl
  | cons stimulus rest ih =>
      have kept := session.cycle_cyclesPerFrame stimulus
      rw [run]
      rcases cycled : session.cycle stimulus with ⟨next, _ | _⟩
      · simpa [cycled] using kept
      · simpa [cycled, ih] using kept

/-- A completed run of a session is a completed run of its system, and is counted. -/
theorem of_run_ok {stimuli : List Stimulus} (completed : session.run stimuli = (last, .ok ())) :
    session.system.run stimuli = (last.system, none) ∧
      last.cyclesRun = session.cyclesRun + stimuli.length := by
  induction stimuli generalizing session with
  | nil =>
      simp only [run, Prod.mk.injEq] at completed
      simp [completed.1, System.run]
  | cons stimulus rest ih =>
      rw [run] at completed
      rcases cycled : session.cycle stimulus with ⟨next, _ | _⟩
      · simp [cycled] at completed
      · simp only [cycled] at completed
        rcases of_cycle_ok cycled with ⟨system, stepped, rfl⟩
        rcases ih completed with ⟨ran, counted⟩
        refine ⟨System.run_cons_completed_iff.mpr ⟨system, stepped, ran⟩, ?_⟩
        simp only [complete] at counted
        simp only [List.length_cons]
        omega

theorem run_append_of_ok {first : List Stimulus} (completed : session.run first = (next, .ok ()))
    (second : List Stimulus) : session.run (first ++ second) = next.run second := by
  induction first generalizing session with
  | nil =>
      simp only [run, Prod.mk.injEq] at completed
      simp [completed.1]
  | cons stimulus rest ih =>
      rw [run] at completed
      rw [List.cons_append, run]
      rcases cycled : session.cycle stimulus with ⟨reached, _ | _⟩
      · simp [cycled] at completed
      · simp only [cycled] at completed ⊢
        exact ih completed

theorem run_append_of_error {first : List Stimulus} {error : Error}
    (failed : session.run first = (next, .error error)) (second : List Stimulus) :
    session.run (first ++ second) = (next, .error error) := by
  induction first generalizing session with
  | nil => simp [run] at failed
  | cons stimulus rest ih =>
      rw [run] at failed
      rw [List.cons_append, run]
      rcases cycled : session.cycle stimulus with ⟨reached, _ | _⟩
      · simpa [cycled] using failed
      · simp only [cycled] at failed ⊢
        exact ih failed

/-- An outcome without its result. -/
def effect {Result : Type} (outcome : Session × Except Error Result) :
    Session × Except Error Unit :=
  outcome.map id (Except.map fun _ => ())

theorem effect_burst (session : Session) (input : Input) (tick drew : Bool) (count : Nat) :
    effect (session.burst input tick drew count) =
      session.run ((List.range count).map fun index => ⟨tick && decide (index = 0), input⟩) := by
  -- Behind the first cycle the induction goes on with a burst that does not tick at all.
  induction count generalizing session tick drew with
  | zero => rfl
  | succ count ih =>
      rw [List.range_succ_eq_map, List.map_cons, List.map_map, burst, run]
      simp only [decide_true, Bool.and_true]
      rcases session.cycle ⟨tick, input⟩ with ⟨next, _ | _⟩
      · rfl
      · simpa [Function.comp_def] using ih next false _

theorem effect_runFrame (session : Session) (input : Input) :
    effect (session.runFrame input) =
      session.run (cadence session.cyclesPerFrame input session.cyclesPerFrame) := by
  simp [runFrame, effect_burst, cadence_self]

theorem effect_countFrames (session : Session) (input : Input) (drawn count : Nat) :
    effect (session.countFrames input drawn count) =
      session.run (cadence session.cyclesPerFrame input (count * session.cyclesPerFrame)) := by
  induction count generalizing session drawn with
  | zero => simp [countFrames, cadence, run, effect, Except.map]
  | succ count ih =>
      have framed := session.effect_runFrame input
      have kept := session.run_cyclesPerFrame
        (cadence session.cyclesPerFrame input session.cyclesPerFrame)
      rw [countFrames, cadence_succ_mul]
      rcases ran : session.runFrame input with ⟨next, error | drew⟩
      · rw [ran] at framed
        exact (run_append_of_error framed.symm _).symm
      · rw [ran] at framed
        rw [← framed] at kept
        have sameLength : next.cyclesPerFrame = session.cyclesPerFrame := kept
        rw [run_append_of_ok framed.symm, ← sameLength]
        exact ih next _

/-- Frames in two requests are the frames of one. -/
theorem exists_countFrames_of_add {first second drawn total : Nat}
    (completed : session.countFrames input drawn (first + second) = (last, .ok total)) :
    ∃ middle half, session.countFrames input drawn first = (middle, .ok half) ∧
      middle.countFrames input half second = (last, .ok total) := by
  induction first generalizing session drawn with
  | zero =>
      rw [Nat.zero_add] at completed
      exact ⟨session, drawn, rfl, completed⟩
  | succ first ih =>
      rw [Nat.succ_add, countFrames] at completed
      rw [countFrames]
      rcases ran : session.runFrame input with ⟨next, error | drew⟩
      · simp [ran] at completed
      · simp only [ran] at completed ⊢
        exact ih completed

theorem countFrames_eq_map (session : Session) (input : Input) (drawn count : Nat) :
    session.countFrames input drawn count =
      (session.countFrames input 0 count).map id (Except.map (drawn + ·)) := by
  induction count generalizing session drawn with
  | zero => rfl
  | succ count ih =>
      rw [countFrames, countFrames]
      rcases session.runFrame input with ⟨next, error | drew⟩
      · rfl
      · dsimp only
        rw [ih next (if drew then drawn + 1 else drawn), ih next (if drew then 0 + 1 else 0)]
        rcases next.countFrames input 0 count with ⟨reached, error | counted⟩
        · rfl
        · cases drew <;> simp [Except.map, Nat.add_assoc]

/-- Frames flatten to cycles: they leave what the cycles of their cadence leave, and fail as those
fail. If they are completed, every cycle has been counted, both timers have ticked once a frame, and
the frames could as well have been requested in two parts. -/
theorem runFrames_eq_run_cadence (session : Session) (input : Input) (frames : Int) :
    effect (session.runFrames input frames) =
      session.run
        (cadence session.cyclesPerFrame input (frames.toNat * session.cyclesPerFrame)) ∧
    (∀ last drawn, session.runFrames input frames = (last, .ok drawn) →
      last.cyclesRun = session.cyclesRun + frames.toNat * session.cyclesPerFrame ∧
      System.Elapses last.system session.system (frames.toNat * session.cyclesPerFrame)
        frames.toNat) ∧
    ∀ first second, 0 ≤ first → 0 ≤ second → first + second = frames →
      ∀ last drawn, session.runFrames input frames = (last, .ok drawn) →
        ∃ middle firstDrawn secondDrawn,
          session.runFrames input first = (middle, .ok firstDrawn) ∧
          middle.runFrames input second = (last, .ok secondDrawn) ∧
          firstDrawn + secondDrawn = drawn := by
  refine ⟨session.effect_countFrames input 0 frames.toNat, ?_, ?_⟩
  · intro last drawn completed
    have flat := session.effect_countFrames input 0 frames.toNat
    rw [← runFrames, completed] at flat
    rcases of_run_ok flat.symm with ⟨ran, counted⟩
    have elapses := System.elapses_of_run ran
    rw [length_cadence] at counted elapses
    rw [countP_tick_cadence session.cyclesPerFrame_pos] at elapses
    exact ⟨counted, elapses⟩
  · rintro first second first_nonneg second_nonneg rfl last drawn completed
    rw [runFrames, Int.toNat_add first_nonneg second_nonneg] at completed
    rcases exists_countFrames_of_add completed with ⟨middle, half, firstCompleted, rest⟩
    rw [countFrames_eq_map] at rest
    rcases ran : middle.countFrames input 0 second.toNat with ⟨reached, error | counted⟩
    · simp [ran, Except.map] at rest
    · simp only [ran, Except.map, Prod.map, id, Prod.mk.injEq, Except.ok.injEq] at rest
      exact ⟨middle, half, counted, firstCompleted, by rw [runFrames, ran, rest.1], rest.2⟩

/-- A program that jumps back and forth, with three cycles in a frame. -/
def jumping : Settings where
  program := [0x12, 0x02, 0x12, 0x00]
  cyclesPerFrame := 3
  logger := standardLogger 0

theorem jumping_runFrames :
    ∃ session last, start jumping 0 = .ok session ∧ session.runFrames .none 2 = (last, .ok 0) ∧
      effect (session.runFrames .none 2) = session.run (cadence 3 .none 6) ∧
      last.cyclesRun = 6 ∧ System.Elapses last.system session.system 6 2 ∧
      ∃ middle, session.runFrames .none 1 = (middle, .ok 0) ∧
        middle.runFrames .none 1 = (last, .ok 0) := by
  have starts : ∃ session, start jumping 0 = .ok session := ⟨_, rfl⟩
  rcases starts with ⟨session, started⟩
  have sameFrames : session.cyclesPerFrame = 3 := by
    cases started
    rfl
  have fresh : session.cyclesRun = 0 := by
    cases started
    rfl
  have completes : (session.runFrames .none 2).2 = .ok 0 := by
    cases started
    decide +kernel
  rcases runFrames_eq_run_cadence session .none 2 with ⟨flat, counted, split⟩
  rcases ran : session.runFrames .none 2 with ⟨last, result⟩
  rw [ran] at completes
  rw [sameFrames] at flat counted
  obtain rfl : result = .ok 0 := completes
  rcases counted last 0 ran with ⟨grown, elapses⟩
  rcases split 1 1 (by decide) (by decide) rfl last 0 ran with
    ⟨middle, firstDrawn, secondDrawn, first, second, sum⟩
  obtain ⟨rfl, rfl⟩ : firstDrawn = 0 ∧ secondDrawn = 0 := by omega
  rw [fresh] at grown
  exact ⟨session, last, started, ran, ran ▸ flat, grown, elapses, middle, first, second⟩

end Session

end Chip8
