import Chip8.Proofs.Display.Blit

/-!
# Sprites on top of each other

Drawing a sprite toggles the pixels that it covers, whatever else is on the display. So several
sprites from one memory change a pixel if and only if an odd number of them covers it, and it makes
no difference in which order they are drawn.
-/

namespace Chip8

/-- A sprite in memory that is drawn with its top left corner at `(x, y)` has a set bit over a
pixel. -/
def Memory.covers (memory : Memory) (x y : Int) (address height : Nat) (column : Fin 64)
    (row : Fin 32) : Bool :=
  let across := ((column : Int) - x) % 64
  let down := ((row : Int) - y) % 32
  decide (across < 8 ∧ down < height) &&
    (memory.byte (address + down.toNat)).toNat.testBit (7 - across.toNat)

/-- A request to draw a sprite that lies in memory. -/
structure SpriteRequest where
  x : Int
  y : Int
  address : Int
  height : Int
  deriving DecidableEq, Repr

namespace SpriteRequest

def InBounds (request : SpriteRequest) : Prop :=
  Memory.InRange request.address request.height ∧ request.height ≤ 32

def covers (request : SpriteRequest) (memory : Memory) (column : Fin 64) (row : Fin 32) : Bool :=
  memory.covers request.x request.y request.address.toNat request.height.toNat column row

end SpriteRequest

namespace Display

/-- Draws sprites one after another up to the first that cannot be drawn. -/
def drawAll (display : Display) (memory : Memory) (requests : List SpriteRequest) :
    Except Error Display :=
  requests.foldlM
    (fun display request =>
      (display.drawSprite memory request.x request.y request.address request.height).map Prod.fst)
    display

/-- Over a pixel outside a sprite the mask decides, and elsewhere no shift is clipped. -/
theorem spriteBit_slice (memory : Memory) (x y : Int) (address height : Nat) (column : Fin 64)
    (row : Fin 32) :
    spriteBit (spriteRows (memory.slice address height)) height x y column row =
      memory.covers x y address height column row := by
  have across_eq : ((column : Int) - x % 64) % 64 = ((column : Int) - x) % 64 := by omega
  have down_eq : ((row : Int) - y % 32) % 32 = ((row : Int) - y) % 32 := by omega
  simp only [spriteBit, Memory.covers, across_eq, down_eq, ← Bool.decide_and]
  by_cases inside : ((column : Int) - x) % 64 < 8 ∧ ((row : Int) - y) % 32 < height
  · have shift_eq : (max 0 (min (7 - ((column : Int) - x) % 64) 7)).toNat =
        7 - (((column : Int) - x) % 64).toNat := by
      omega
    rw [getD_spriteRows (by omega), getD_slice (by omega), shift_eq]
  · simp only [decide_eq_false inside, Bool.false_and]

theorem lit_toggle_slice (display : Display) (memory : Memory) (x y : Int) (address height : Nat)
    (column : Fin 64) (row : Fin 32) :
    (display.toggle (memory.slice address height) x y).lit column row =
      (display.lit column row ^^ memory.covers x y address height column row) := by
  rw [lit_toggle, Memory.length_slice, spriteBit_slice]

theorem drawSprite_of_inBounds (display : Display) (memory : Memory) {request : SpriteRequest}
    (inBounds : request.InBounds) :
    ∃ drawn collided,
      display.drawSprite memory request.x request.y request.address request.height =
          .ok (drawn, collided) ∧
        drawn.dirty = true ∧
        ∀ column row,
          drawn.lit column row = (display.lit column row ^^ request.covers memory column row) := by
  rcases inBounds with ⟨inRange, height_le⟩
  refine ⟨_, _, drawSprite_of_inRange display memory _ _ inRange height_le, rfl, ?_⟩
  intro column row
  exact lit_toggle_slice display memory _ _ _ _ column row

/-- Sprites that can be drawn change the pixels that an odd number of them covers. -/
theorem exists_drawAll (display : Display) (memory : Memory) {requests : List SpriteRequest}
    (inBounds : ∀ request ∈ requests, request.InBounds) :
    ∃ drawn, display.drawAll memory requests = .ok drawn ∧
      drawn.dirty = (display.dirty || !requests.isEmpty) ∧
      ∀ column row,
        drawn.lit column row =
          (display.lit column row ^^
            (requests.countP (·.covers memory column row)).bodd) := by
  induction requests generalizing display with
  | nil => exact ⟨display, rfl, by simp, by simp⟩
  | cons request rest ih =>
      rcases display.drawSprite_of_inBounds memory (inBounds request (.head rest)) with
        ⟨first, collided, drewFirst, raised, firstLit⟩
      rcases ih first (fun other among => inBounds other (.tail request among)) with
        ⟨drawn, drewRest, dirty_eq, lit_eq⟩
      refine ⟨drawn, ?_, ?_, ?_⟩
      · rw [drawAll, List.foldlM_cons, drewFirst]
        exact drewRest
      · simp [dirty_eq, raised]
      · intro column row
        rw [lit_eq, firstLit, List.countP_cons, Nat.bodd_add, Bool.xor_assoc]
        congr 1
        rcases request.covers memory column row <;> simp [Bool.xor_comm]

/-- The order in which sprites are drawn makes no difference. -/
theorem exists_drawAll_of_perm (display : Display) (memory : Memory)
    {requests others : List SpriteRequest} (reordered : requests.Perm others)
    (inBounds : ∀ request ∈ requests, request.InBounds) :
    ∃ drawn, display.drawAll memory requests = .ok drawn ∧
      display.drawAll memory others = .ok drawn := by
  have othersInBounds : ∀ request ∈ others, request.InBounds := by
    intro request among
    exact inBounds request (reordered.mem_iff.mpr among)
  rcases display.exists_drawAll memory inBounds with
    ⟨drawn, drew, dirty_eq, lit_eq⟩
  rcases display.exists_drawAll memory othersInBounds with
    ⟨drawnToo, drewToo, dirtyToo_eq, litToo_eq⟩
  have same : drawnToo = drawn := by
    apply ext_lit
    · intro column row
      rw [lit_eq, litToo_eq, reordered.countP_eq]
    · rw [dirty_eq, dirtyToo_eq, reordered.isEmpty_eq]
  exact ⟨drawn, drew, same ▸ drewToo⟩

end Display

end Chip8
