import Chip8.Proofs.Display.Superposition
import Chip8.Proofs.Execution.Frame
import Chip8.Proofs.Execution.History

/-!
# The history of a pixel

Only two instructions change pixels: one turns all of them off, the other toggles those that a
sprite covers. So what a pixel shows after a run is decided by the draws since the last clearing
that had a set bit over it, each taken with the registers and the memory of its own moment: the
pixel has been toggled once by each of them.
-/

namespace Chip8

namespace Machine

/-- An instruction draws a sprite with a set bit over a pixel. -/
def strikes (machine : Machine) (column : Fin 64) (row : Fin 32) : Instruction → Bool
  | .draw x y height =>
      machine.memory.covers (machine.registers.get x).toNat (machine.registers.get y).toNat
        machine.index.toNat height column row
  | _ => false

theorem Performs.lit_eq {machine next : Machine} {input : Input} {byte : UInt8}
    {instruction : Instruction} (performs : machine.Performs input byte instruction next)
    (column : Fin 64) (row : Fin 32) :
    next.display.lit column row =
      if instruction = .clearScreen then false
      else machine.display.lit column row ^^ machine.strikes column row instruction := by
  cases performs with
  | clearScreen => exact Display.lit_clear machine.display column row
  | draw found =>
      rw [Memory.read_eq_ok_iff] at found
      rcases found with ⟨_, rfl⟩
      exact Display.lit_toggle_slice ..
  | _ => exact (Bool.xor_false _).symm

end Machine

namespace System

def clears (system : System) : Bool :=
  system.pending? = some .clearScreen

def strikes (system : System) (column : Fin 64) (row : Fin 32) : Bool :=
  system.pending?.any (system.machine.strikes column row)

/-- The systems that a run has passed since it last turned all pixels off, or since its start if it
never did. -/
def sinceClear (system : System) (stimuli : List Stimulus) : List System :=
  (system.path stimuli).rtakeWhile fun before => !before.clears

variable {system next : System} {stimulus : Stimulus}

theorem lit_of_cycle (completed : system.cycle stimulus = .ok next) (column : Fin 64)
    (row : Fin 32) :
    next.machine.display.lit column row =
      if system.clears then false
      else system.machine.display.lit column row ^^ system.strikes column row := by
  rcases exists_performs_pending completed with ⟨instruction, performed, pending, performs, rfl⟩
  rcases exists_key_supply system.clearDirty instruction with ⟨key, supplied⟩
  rw [supplied] at performs
  rw [tickIf_display, performs.lit_eq column row]
  simp only [clears, strikes, pending, Option.some.injEq, decide_eq_true_eq, Option.any_some]
  cases instruction <;> rfl

end System

/-- Toggling and turning off: what is left is the parity of the toggles since it was last turned
off. -/
theorem foldl_toggle {Entry : Type} (clears strikes : Entry → Bool) (entries : List Entry)
    (start : Bool) :
    entries.foldl (fun lit entry => if clears entry then false else lit ^^ strikes entry) start =
      ((if entries.any clears then false else start) ^^
        ((entries.rtakeWhile fun entry => !clears entry).countP strikes).bodd) := by
  -- A newest entry that clears leaves nothing to count, so the induction is on the end.
  induction entries using List.reverseRecOn with
  | nil => simp
  | append_singleton entries entry ih =>
      rw [List.foldl_append, List.foldl_cons, List.foldl_nil, ih, List.rtakeWhile_concat]
      by_cases cleared : clears entry
      · simp [cleared]
      · rcases struck : strikes entry with _ | _
        · simp [cleared, struck, List.countP_append]
        · simp [cleared, struck, List.countP_append]

namespace System

theorem any_clears_path (system : System) (stimuli : List Stimulus) :
    (system.path stimuli).any clears = decide (.clearScreen ∈ system.executed stimuli) := by
  simp [executed, clears, List.any_eq, List.mem_filterMap]

theorem lit_run (system : System) (stimuli : List Stimulus) (column : Fin 64) (row : Fin 32) :
    (system.run stimuli).1.machine.display.lit column row =
      ((if .clearScreen ∈ system.executed stimuli then false
          else system.machine.display.lit column row) ^^
        ((system.sinceClear stimuli).countP (·.strikes column row)).bodd) := by
  have folded := run_eq_foldl_path (fun system => system.machine.display.lit column row)
    (fun lit before => if before.clears then false else lit ^^ before.strikes column row)
    (fun _ _ _ completed => lit_of_cycle completed column row) system stimuli
  rw [folded, foldl_toggle clears (·.strikes column row), any_clears_path]
  simp only [decide_eq_true_eq, sinceClear]

/-- A pixel at the end of a run is dark if the run turned all pixels off and otherwise what it was,
toggled once for each draw since then whose sprite had a set bit over it at that moment. And
sprites that can be drawn from one memory leave the same display in whatever order they are
drawn. -/
theorem pixels_follow_history :
    (∀ (system : System) (stimuli : List Stimulus) (column : Fin 64) (row : Fin 32),
      (system.run stimuli).1.machine.display.lit column row =
        ((if .clearScreen ∈ system.executed stimuli then false
            else system.machine.display.lit column row) ^^
          ((system.sinceClear stimuli).countP (·.strikes column row)).bodd)) ∧
    ∀ (display : Display) (memory : Memory) (requests others : List SpriteRequest),
      requests.Perm others → (∀ request ∈ requests, request.InBounds) →
        ∃ drawn, display.drawAll memory requests = .ok drawn ∧
          display.drawAll memory others = .ok drawn := by
  refine ⟨lit_run, ?_⟩
  intro display memory requests others reordered inBounds
  exact display.exists_drawAll_of_perm memory reordered inBounds

/-- A digit is drawn, cleared away and drawn again; two sprites, one of them as high as the display
and over two of its edges, are drawn in either order. -/
theorem redrawnDigit_pixels :
    ∃ machine, Machine.boot ⟨0, 7⟩ [0xA0, 0x50, 0xD0, 0x15, 0x00, 0xE0, 0xD0, 0x15] =
        .ok machine ∧
      let system : System := ⟨machine, .generator⟩
      let stimuli := List.replicate 4 ⟨false, .none⟩
      let requests : List SpriteRequest := [⟨0, 0, 0x50, 5⟩, ⟨-3, 30, 0x55, 32⟩]
      system.executed stimuli = [.setIndex 0x50, .draw 0 1 5, .clearScreen, .draw 0 1 5] ∧
        (system.sinceClear stimuli).countP (·.strikes 0 0) = 1 ∧
        (system.run stimuli).1.machine.display.lit 0 0 = true ∧
        (∀ request ∈ requests, request.InBounds) ∧
        ∃ drawn, Display.blank.drawAll machine.memory requests = .ok drawn ∧
          Display.blank.drawAll machine.memory requests.reverse = .ok drawn := by
  have boots : ∃ machine, Machine.boot ⟨0, 7⟩ [0xA0, 0x50, 0xD0, 0x15, 0x00, 0xE0, 0xD0, 0x15] =
      .ok machine := ⟨_, rfl⟩
  rcases boots with ⟨machine, booted⟩
  refine ⟨machine, booted, ?_⟩
  dsimp only
  have computed : System.executed ⟨machine, .generator⟩ (List.replicate 4 ⟨false, .none⟩) =
        [.setIndex 0x50, .draw 0 1 5, .clearScreen, .draw 0 1 5] ∧
      (System.sinceClear ⟨machine, .generator⟩ (List.replicate 4 ⟨false, .none⟩)).countP
        (·.strikes 0 0) = 1 := by
    cases booted
    decide +kernel
  rcases computed with ⟨executed_eq, once⟩
  have shown := pixels_follow_history.1 ⟨machine, .generator⟩ (List.replicate 4 ⟨false, .none⟩) 0 0
  rw [executed_eq, once] at shown
  have inBounds : ∀ request ∈ ([⟨0, 0, 0x50, 5⟩, ⟨-3, 30, 0x55, 32⟩] : List SpriteRequest),
      request.InBounds := by
    unfold SpriteRequest.InBounds
    decide
  refine ⟨executed_eq, once, by simpa using shown, inBounds, ?_⟩
  exact pixels_follow_history.2 _ _ _ _ (List.reverse_perm _).symm inBounds

end System

end Chip8
