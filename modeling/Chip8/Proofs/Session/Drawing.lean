import Chip8.Proofs.Execution.Unread
import Chip8.Proofs.Session.Cadence
import Chip8.Proofs.Session.Polling

/-!
# Frames that draw

A cycle lowers the flag of the display before it executes its opcode, so the flag that it leaves
tells whether this opcode draws: `00E0` does, and so does every opcode that begins with `D`, even
if the sprite has no rows. A frame collects the flags of its cycles before the next one wipes them.
What frames tell their host is therefore decided by the opcodes that they have executed, and not by
the flag that they find.
-/

namespace Chip8

/-- The instructions that raise the flag of the display. -/
def Instruction.draws : Instruction → Bool
  | .clearScreen | .draw _ _ _ => true
  | _ => false

def drawsOpcode (opcode : UInt16) : Bool :=
  opcode = 0x00E0 ∨ opcode.toNat / 0x1000 = 0xD

/-- The number of frames in which an opcode draws, if each has as many opcodes as cycles. -/
def drawingFrames (cyclesPerFrame frames : Nat) (opcodes : List UInt16) : Nat :=
  (List.range frames).countP fun frame =>
    ((opcodes.drop (frame * cyclesPerFrame)).take cyclesPerFrame).any drawsOpcode

theorem drawingFrames_append {cyclesPerFrame : Nat} {first : List UInt16}
    (wholeFrame : first.length = cyclesPerFrame) (frames : Nat) (others : List UInt16) :
    drawingFrames cyclesPerFrame (frames + 1) (first ++ others) =
      drawingFrames cyclesPerFrame frames others + if first.any drawsOpcode then 1 else 0 := by
  have later (frame : Nat) : (first ++ others).drop ((frame + 1) * cyclesPerFrame) =
      others.drop (frame * cyclesPerFrame) := by
    rw [Nat.succ_mul, Nat.add_comm, ← List.drop_drop, List.drop_left' wholeFrame]
  simp [drawingFrames, List.range_succ_eq_map, List.countP_cons, List.countP_map,
    Function.comp_def, later, List.take_left' wholeFrame]

theorem Fields.val_family (opcode : UInt16) :
    (ofOpcode opcode.toNat).family.val = opcode.toNat / 0x1000 := by
  have bound := opcode.toNat_lt
  simp only [ofOpcode, Fin.ofNat]
  omega

theorem Instruction.draws_iff_of_encodes {opcode : UInt16} {instruction : Instruction}
    (encoded : Encodes opcode.toNat (Fields.ofOpcode opcode.toNat) instruction) :
    instruction.draws = true ↔ opcode = 0x00E0 ∨ opcode.toNat / 0x1000 = 0xD := by
  rw [← Fields.val_family]
  constructor
  · intro drawing
    cases encoded with
    | clearScreen exact =>
        left
        apply UInt16.toNat_inj.mp
        exact_mod_cast exact
    | draw family => exact .inr (congrArg Fin.val family)
    | _ => contradiction
  · -- An opcode stands for one instruction at most, so it is enough to find the one that draws.
    have decoded := decode?_eq_some_iff.mpr encoded
    rintro (rfl | family)
    · obtain rfl : Instruction.clearScreen = instruction := Option.some.inj decoded
      rfl
    · have drawn : Encodes opcode.toNat (Fields.ofOpcode opcode.toNat) _ :=
        .draw (Fin.ext family)
      obtain rfl := Option.some.inj ((decode?_eq_some_iff.mpr drawn).symm.trans decoded)
      rfl

namespace System

variable {system next last : System} {stimulus : Stimulus} {stimuli : List Stimulus}
  {opcode : UInt16}

/-- The opcode at the program counter, if there is one. -/
def opcode? (system : System) : Option UInt16 :=
  system.machine.fetch.toOption

/-- The opcodes of the completed cycles of a run. -/
def opcodes (system : System) (stimuli : List Stimulus) : List UInt16 :=
  (system.path stimuli).filterMap opcode?

/-- The flag that a completed cycle leaves tells whether its opcode draws. -/
theorem exists_opcode_of_cycle (completed : system.cycle stimulus = .ok next) :
    ∃ opcode, system.machine.fetch = .ok opcode ∧
      next.machine.display.dirty = drawsOpcode opcode := by
  rcases exists_performs_of_cycle completed with
    ⟨opcode, instruction, performed, fetched, encoded, performs, _⟩
  have pending : system.pending? = some instruction := by
    rw [pending?_of_fetch fetched]
    exact Instruction.decode?_eq_some_iff.mpr encoded
  have flag_eq : next.machine.display.dirty = instruction.draws := by
    have unread_eq := congrArg Unread.dirty (unread_of_cycle pending completed).1
    refine Eq.trans unread_eq ?_
    cases instruction <;> cases stimulus.tick <;> rfl
  refine ⟨opcode, fetched, ?_⟩
  rw [flag_eq, Bool.eq_iff_iff, Instruction.draws_iff_of_encodes encoded, drawsOpcode,
    decide_eq_true_eq]

theorem opcode?_of_fetch (fetched : system.machine.fetch = .ok opcode) :
    system.opcode? = some opcode := by
  rw [opcode?, fetched]
  rfl

theorem opcodes_cons_of_ok (fetched : system.machine.fetch = .ok opcode)
    (completed : system.cycle stimulus = .ok next) (rest : List Stimulus) :
    system.opcodes (stimulus :: rest) = opcode :: next.opcodes rest := by
  simp [opcodes, path_cons_of_ok completed, opcode?_of_fetch fetched]

theorem opcodes_append (reached : system.run stimuli = (next, none)) (others : List Stimulus) :
    system.opcodes (stimuli ++ others) = system.opcodes stimuli ++ next.opcodes others := by
  simp [opcodes, run_and_path_append reached others]

theorem length_opcodes_of_completed (completed : system.run stimuli = (last, none)) :
    (system.opcodes stimuli).length = stimuli.length := by
  rw [← length_path_of_completed completed]
  apply List.filterMap_length_eq_length.mpr
  intro before passed
  rcases exists_cycle_of_mem_path passed with ⟨stimulus, after, stepped⟩
  rcases exists_opcode_of_cycle stepped with ⟨opcode, fetched, _⟩
  simp [opcode?_of_fetch fetched]

end System

namespace Session

variable {session last : Session} {input : Input} {tick drew drewAny : Bool} {count drawn : Nat}

theorem burst_eq_any (completed : session.burst input tick drew count = (last, .ok drewAny)) :
    drewAny = (drew || (session.system.opcodes
      ((List.range count).map fun index => ⟨tick && decide (index = 0), input⟩)).any
        drawsOpcode) := by
  induction count generalizing session tick drew with
  | zero =>
      simp only [burst, Prod.mk.injEq, Except.ok.injEq] at completed
      simp [completed, System.opcodes, System.path]
  | succ count ih =>
      rw [burst] at completed
      rcases cycled : session.cycle ⟨tick, input⟩ with ⟨next, error | done⟩
      · simp [cycled] at completed
      · simp only [cycled] at completed
        rcases of_cycle_ok cycled with ⟨system, stepped, rfl⟩
        rcases System.exists_opcode_of_cycle stepped with ⟨opcode, fetched, flag_eq⟩
        have flag : (session.complete system).isDirty = drawsOpcode opcode := flag_eq
        have held : (session.complete system).system = system := rfl
        have others := ih completed
        rw [flag, held] at others
        simpa [List.range_succ_eq_map, Function.comp_def, Bool.or_assoc,
          System.opcodes_cons_of_ok fetched stepped] using others

/-- A completed frame has completed all of its cycles. -/
theorem of_runFrame_ok (completed : session.runFrame input = (last, .ok drew)) :
    session.system.run (cadence session.cyclesPerFrame input session.cyclesPerFrame) =
        (last.system, none) ∧
      last.cyclesPerFrame = session.cyclesPerFrame := by
  have flat := session.effect_runFrame input
  rw [completed] at flat
  have kept := session.run_cyclesPerFrame
    (cadence session.cyclesPerFrame input session.cyclesPerFrame)
  rw [← flat] at kept
  exact ⟨(of_run_ok flat.symm).1, kept⟩

theorem runFrame_eq_any (completed : session.runFrame input = (last, .ok drew)) :
    drew = (session.system.opcodes
      (cadence session.cyclesPerFrame input session.cyclesPerFrame)).any drawsOpcode := by
  simpa [cadence_self] using burst_eq_any completed

theorem countFrames_eq_drawingFrames {total : Nat}
    (completed : session.countFrames input drawn count = (last, .ok total)) :
    total = drawn + drawingFrames session.cyclesPerFrame count (session.system.opcodes
      (cadence session.cyclesPerFrame input (count * session.cyclesPerFrame))) := by
  induction count generalizing session drawn with
  | zero =>
      simp only [countFrames, Prod.mk.injEq, Except.ok.injEq] at completed
      simp [completed, drawingFrames]
  | succ count ih =>
      rw [countFrames] at completed
      rcases framed : session.runFrame input with ⟨next, error | drew⟩
      · simp [framed] at completed
      · simp only [framed] at completed
        rcases of_runFrame_ok framed with ⟨ran, sameLength⟩
        have wholeFrame := System.length_opcodes_of_completed ran
        rw [length_cadence] at wholeFrame
        have others := ih completed
        rw [sameLength] at others
        rw [others, cadence_succ_mul, System.opcodes_append ran, drawingFrames_append wholeFrame,
          ← runFrame_eq_any framed]
        split <;> omega

/-- A completed cycle leaves the flag up if and only if its opcode draws. A completed frame has
executed as many opcodes as a frame has cycles, and tells whether one of them draws; completed
frames tell in how many of them one does. Whether the flag was up before makes no difference. -/
theorem frames_tell_what_drew :
    (∀ (system next : System) (stimulus : Stimulus), system.cycle stimulus = .ok next →
      ∃ opcode, system.machine.fetch = .ok opcode ∧
        (next.machine.display.dirty = true ↔
          opcode = 0x00E0 ∨ opcode.toNat / 0x1000 = 0xD)) ∧
    (∀ (session last : Session) (input : Input) (drew : Bool),
      session.runFrame input = (last, .ok drew) →
        let opcodes := session.system.opcodes
          (cadence session.cyclesPerFrame input session.cyclesPerFrame)
        opcodes.length = session.cyclesPerFrame ∧ drew = opcodes.any drawsOpcode) ∧
    (∀ (session last : Session) (input : Input) (frames : Int) (drawn : Nat),
      session.runFrames input frames = (last, .ok drawn) →
        let opcodes := session.system.opcodes
          (cadence session.cyclesPerFrame input (frames.toNat * session.cyclesPerFrame))
        opcodes.length = frames.toNat * session.cyclesPerFrame ∧
          drawn = drawingFrames session.cyclesPerFrame frames.toNat opcodes) ∧
    ∀ (left right : Session), EqualButFlag left right → ∀ (input : Input) (frames : Int),
      (left.runFrame input).2 = (right.runFrame input).2 ∧
        (left.runFrames input frames).2 = (right.runFrames input frames).2 := by
  refine ⟨?cycles, ?frame, ?frames, ?sameAnswers⟩
  case cycles =>
    intro system next stimulus completed
    rcases System.exists_opcode_of_cycle completed with ⟨opcode, fetched, flag_eq⟩
    refine ⟨opcode, fetched, ?_⟩
    rw [flag_eq, drawsOpcode, decide_eq_true_eq]
  case frame =>
    intro session last input drew completed opcodes
    have whole := System.length_opcodes_of_completed (of_runFrame_ok completed).1
    rw [length_cadence] at whole
    exact ⟨whole, runFrame_eq_any completed⟩
  case frames =>
    intro session last input frames drawn completed opcodes
    have flat := session.effect_countFrames input 0 frames.toNat
    rw [← runFrames, completed] at flat
    have whole := System.length_opcodes_of_completed (of_run_ok flat.symm).1
    rw [length_cadence] at whole
    exact ⟨whole, by simpa using countFrames_eq_drawingFrames completed⟩
  case sameAnswers =>
    intro left right related input frames
    exact ⟨(simulation_equalButFlag.runFrame related input).2,
      (simulation_equalButFlag.countFrames related input 0 frames.toNat).2⟩

/-- A program that draws a sprite without rows and then jumps to itself, with two cycles in a
frame. -/
def drawingOnce : Settings where
  program := [0xD0, 0x00, 0x12, 0x02]
  cyclesPerFrame := 2
  logger := standardLogger 0

theorem drawingOnce_frames :
    ∃ session system, start drawingOnce 0 = .ok session ∧
      session.system.cycle ⟨true, .none⟩ = .ok system ∧ system.machine.display.dirty = true ∧
      (session.runFrame .none).2 = .ok true ∧
      (session.system.opcodes (cadence 2 .none 2)).any drawsOpcode = true ∧
      session.system.opcodes (cadence 2 .none 4) = [0xD000, 0x1202, 0x1202, 0x1202] ∧
      (session.runFrames .none 2).2 = .ok 1 ∧
      drawingFrames 2 2 [0xD000, 0x1202, 0x1202, 0x1202] = 1 ∧
      (session.clearDirty.runFrames .none 2).2 = .ok 1 := by
  have starts : ∃ session, start drawingOnce 0 = .ok session := ⟨_, rfl⟩
  rcases starts with ⟨session, started⟩
  have sameFrames : session.cyclesPerFrame = 2 := by
    cases started
    rfl
  have computed : (session.cycle ⟨true, .none⟩).2 = .ok () ∧
      session.system.machine.fetch = .ok 0xD000 ∧ (session.runFrame .none).2 = .ok true ∧
      (session.runFrames .none 2).2 = .ok 1 ∧
      session.system.opcodes (cadence 2 .none 4) = [0xD000, 0x1202, 0x1202, 0x1202] := by
    cases started
    decide +kernel
  rcases computed with ⟨cycles, fetched, framed, counted, opcodes_eq⟩
  rcases frames_tell_what_drew with ⟨flag, frame, frames, sameAnswers⟩
  rcases of_cycle_ok (Prod.ext rfl cycles) with ⟨system, stepped, _⟩
  rcases flag _ _ _ stepped with ⟨opcode, fetchedToo, dirty_iff⟩
  obtain rfl := Except.ok.inj (fetched.symm.trans fetchedToo)
  have drew := (frame session _ .none true (Prod.ext rfl framed)).2
  have drawn := (frames session _ .none 2 1 (Prod.ext rfl counted)).2
  have sameFlag : EqualButFlag session.clearDirty session := rfl
  have unaffected := (sameAnswers session.clearDirty session sameFlag .none 2).2
  rw [sameFrames] at drew drawn
  refine ⟨session, system, started, stepped, dirty_iff.mpr (.inr (by decide)), framed, drew.symm,
    opcodes_eq, counted, ?_, unaffected.trans counted⟩
  exact opcodes_eq ▸ drawn.symm

end Session

end Chip8
