import Mathlib
import Chip8.Display.Basic

/-!
# Drawing a sprite bit by bit

A sprite is drawn pixel by pixel: each pixel of the display looks up the bit that lies over it. The
other way to draw one is to go through the bits of the sprite, one row after another, and to flip
the pixel on which each set bit lands, remembering whether it was on. This file defines that loop
and shows that both leave the same display and report the same collision.

The loop sees the pixels that earlier bits have already flipped. It still reports what the untouched
display says because no two bits land on the same pixel: a row of eight bits does not meet itself
around an edge of 64 columns, nor do 32 rows.
-/

namespace Chip8

abbrev Pixel : Type :=
  Fin 64 × Fin 32

namespace Pixel

/-- The pixel at a point of the plane, which wraps around both edges of the display. -/
def wrap (x y : Int) : Pixel :=
  (⟨(x % 64).toNat, by omega⟩, ⟨(y % 32).toNat, by omega⟩)

theorem wrap_eq_iff {x y : Int} {pixel : Pixel} :
    wrap x y = pixel ↔ (pixel.1.val : Int) = x % 64 ∧ (pixel.2.val : Int) = y % 32 := by
  rw [Prod.ext_iff, Fin.ext_iff, Fin.ext_iff]
  dsimp only [wrap]
  omega

theorem wrap_injective {x y : Int} {row otherRow bit otherBit : Nat} (row_lt : row < 32)
    (otherRow_lt : otherRow < 32) (bit_lt : bit < 8) (otherBit_lt : otherBit < 8)
    (same : wrap (x + bit) (y + row) = wrap (x + otherBit) (y + otherRow)) :
    row = otherRow ∧ bit = otherBit := by
  rw [wrap_eq_iff] at same
  dsimp only [wrap] at same
  omega

end Pixel

namespace Display

def flip (display : Display) (pixel : Pixel) : Display :=
  ofPixels (fun column row => display.lit column row ^^ decide ((column, row) = pixel))
    display.dirty

@[simp]
theorem lit_flip (display : Display) (pixel : Pixel) (column : Fin 64) (row : Fin 32) :
    (display.flip pixel).lit column row =
      (display.lit column row ^^ decide ((column, row) = pixel)) := by
  simp [flip]

/-- Flips one pixel, and remembers whether it was on. -/
def strike (drawn : Display × Bool) (pixel : Pixel) : Display × Bool :=
  (drawn.1.flip pixel, drawn.2 || drawn.1.lit pixel.1 pixel.2)

/-- Goes through the bits of one row of a sprite from the leftmost on. -/
def scatterRow (bits : UInt8) (x y : Int) (drawn : Display × Bool) : Display × Bool :=
  (List.range 8).foldl
    (fun drawn (bit : Nat) =>
      if bits.toNat.testBit (7 - bit) then strike drawn (.wrap (x + bit) y) else drawn)
    drawn

/-- Goes through the rows of a sprite in memory from the topmost on, and then raises the flag. -/
def scatter (display : Display) (memory : Memory) (x y : Int) (address height : Nat) :
    Display × Bool :=
  let drawn := (List.range height).foldl
    (fun drawn (row : Nat) => scatterRow (memory.byte (address + row)) x (y + row) drawn)
    (display, false)
  ({ drawn.1 with dirty := true }, drawn.2)

/-- The pixels on which the set bits of one row land, from the leftmost on. -/
def rowTargets (bits : UInt8) (x y : Int) : List Pixel :=
  ((List.range 8).filter fun bit => bits.toNat.testBit (7 - bit)).map
    fun (bit : Nat) => .wrap (x + bit) y

/-- The pixels on which the set bits of a sprite land, from the topmost row on. -/
def targets (memory : Memory) (x y : Int) (address height : Nat) : List Pixel :=
  (List.range height).flatMap
    fun (row : Nat) => rowTargets (memory.byte (address + row)) x (y + row)

theorem scatterRow_eq_foldl (bits : UInt8) (x y : Int) (drawn : Display × Bool) :
    scatterRow bits x y drawn = (rowTargets bits x y).foldl strike drawn := by
  rw [rowTargets, List.foldl_map, List.foldl_filter]
  rfl

theorem scatter_eq_foldl (display : Display) (memory : Memory) (x y : Int) (address height : Nat) :
    display.scatter memory x y address height =
      let drawn := (targets memory x y address height).foldl strike (display, false)
      ({ drawn.1 with dirty := true }, drawn.2) := by
  simp only [scatter, scatterRow_eq_foldl, targets, List.foldl_flatMap]

theorem mem_rowTargets {bits : UInt8} {x y : Int} {pixel : Pixel} :
    pixel ∈ rowTargets bits x y ↔
      ∃ bit : Nat, bit < 8 ∧ bits.toNat.testBit (7 - bit) = true ∧ .wrap (x + bit) y = pixel := by
  simp only [rowTargets, List.mem_map, List.mem_filter, List.mem_range, and_assoc]

theorem mem_targets {memory : Memory} {x y : Int} {address height : Nat} {pixel : Pixel} :
    pixel ∈ targets memory x y address height ↔
      ∃ row < height, ∃ bit : Nat, bit < 8 ∧
        (memory.byte (address + row)).toNat.testBit (7 - bit) = true ∧
          .wrap (x + bit) (y + row) = pixel := by
  simp only [targets, List.mem_flatMap, List.mem_range, mem_rowTargets]

theorem nodup_rowTargets (bits : UInt8) (x y : Int) : (rowTargets bits x y).Nodup := by
  refine List.Nodup.map_on ?_ (List.nodup_range.filter _)
  intro bit shown otherBit otherShown same
  rw [List.mem_filter, List.mem_range] at shown otherShown
  have sameInRow : Pixel.wrap (x + bit) (y + (0 : Nat)) = .wrap (x + otherBit) (y + (0 : Nat)) := by
    simpa using same
  exact (Pixel.wrap_injective (by decide) (by decide) shown.1 otherShown.1 sameInRow).2

theorem nodup_targets (memory : Memory) (x y : Int) (address : Nat) {height : Nat}
    (height_le : height ≤ 32) : (targets memory x y address height).Nodup := by
  rw [targets, List.nodup_flatMap]
  refine ⟨fun row _ => nodup_rowTargets _ _ _, ?_⟩
  refine List.nodup_range.pairwise_of_forall_ne ?_
  intro row row_mem otherRow otherRow_mem different pixel struck otherStruck
  rw [List.mem_range] at row_mem otherRow_mem
  rcases mem_rowTargets.mp struck with ⟨bit, bit_lt, _, lands⟩
  rcases mem_rowTargets.mp otherStruck with ⟨otherBit, otherBit_lt, _, otherLands⟩
  exact different (Pixel.wrap_injective (by omega) (by omega) bit_lt otherBit_lt
    (lands.trans otherLands.symm)).1

/-- Striking distinct pixels one after another toggles each of them, and reports whether one of them
was on at the start. -/
theorem foldl_strike {pixels : List Pixel} (distinct : pixels.Nodup) (drawn : Display × Bool) :
    (∀ column row, (pixels.foldl strike drawn).1.lit column row =
      (drawn.1.lit column row ^^ decide ((column, row) ∈ pixels))) ∧
    (pixels.foldl strike drawn).2 =
      (drawn.2 || pixels.any fun pixel => drawn.1.lit pixel.1 pixel.2) := by
  induction pixels generalizing drawn with
  | nil => simp
  | cons pixel rest ih =>
      rcases List.nodup_cons.mp distinct with ⟨fresh, restDistinct⟩
      rcases ih restDistinct (strike drawn pixel) with ⟨restLit, restCollided⟩
      rw [List.foldl_cons]
      constructor
      · intro column row
        rw [restLit, strike, lit_flip]
        by_cases struck : (column, row) = pixel
        · subst struck
          simp [fresh]
        · simp [struck]
      · have untouched : (rest.any fun other => (drawn.1.flip pixel).lit other.1 other.2) =
            rest.any fun other => drawn.1.lit other.1 other.2 := by
          rw [Bool.eq_iff_iff, List.any_eq_true, List.any_eq_true]
          apply exists_congr
          intro other
          apply and_congr_right
          intro other_mem
          have other_ne : other ≠ pixel := by
            rintro rfl
            exact fresh other_mem
          rw [lit_flip, decide_eq_false other_ne, Bool.xor_false]
        rw [restCollided, List.any_cons, ← Bool.or_assoc]
        dsimp only [strike]
        rw [untouched]

theorem getD_spriteRows {sprite : List UInt8} {row : Nat} (row_lt : row < 32) :
    (spriteRows sprite)[row]?.getD 0 = sprite[row]?.getD 0 := by
  rw [Vector.getElem?_eq_getElem row_lt, spriteRows, getElem_overlay _ _ _ _ row_lt]
  simp

theorem getD_slice {memory : Memory} {address height row : Nat} (row_lt : row < height) :
    (memory.slice address height)[row]?.getD 0 = memory.byte (address + row) := by
  rw [Memory.getElem?_slice, if_pos row_lt, Option.getD_some]

theorem spriteBit_eq_decide_mem (memory : Memory) (x y : Int) (address : Nat) {height : Nat}
    (height_le : height ≤ 32) (column : Fin 64) (row : Fin 32) :
    spriteBit (spriteRows (memory.slice address height)) height x y column row =
      decide ((column, row) ∈ targets memory x y address height) := by
  rw [Bool.eq_iff_iff, decide_eq_true_iff, mem_targets]
  simp only [spriteBit, Bool.and_eq_true, decide_eq_true_eq, and_assoc]
  constructor
  · rintro ⟨across_lt, down_lt, isSet⟩
    refine ⟨((row - y % 32) % 32).toNat, by omega, ((column - x % 64) % 64).toNat, by omega, ?_, ?_⟩
    · have shift_eq : (max 0 (min (7 - ((column : Int) - x % 64) % 64) 7)).toNat =
          7 - (((column : Int) - x % 64) % 64).toNat := by
        omega
      rw [getD_spriteRows (by omega), getD_slice (by omega), shift_eq] at isSet
      exact isSet
    · rw [Pixel.wrap_eq_iff]
      dsimp only
      omega
  · rintro ⟨down, down_lt, bit, bit_lt, isSet, lands⟩
    rw [Pixel.wrap_eq_iff] at lands
    dsimp only at lands
    have across_eq : ((column : Int) - x % 64) % 64 = bit := by omega
    have down_eq : ((row : Int) - y % 32) % 32 = down := by omega
    have shift_eq : (max 0 (min (7 - (bit : Int)) 7)).toNat = 7 - bit := by omega
    rw [across_eq, down_eq, shift_eq, Int.toNat_natCast, getD_spriteRows (by omega),
      getD_slice down_lt]
    exact ⟨by omega, by omega, isSet⟩

/-- Drawing a sprite toggles the pixels on which its set bits land. -/
theorem lit_toggle_eq_xor_mem (display : Display) (memory : Memory) (x y : Int) (address : Nat)
    {height : Nat} (height_le : height ≤ 32) (column : Fin 64) (row : Fin 32) :
    (display.toggle (memory.slice address height) x y).lit column row =
      (display.lit column row ^^ decide ((column, row) ∈ targets memory x y address height)) := by
  rw [lit_toggle, Memory.length_slice, spriteBit_eq_decide_mem memory x y address height_le]

theorem collides_slice_iff (display : Display) (memory : Memory) (x y : Int) (address : Nat)
    {height : Nat} (height_le : height ≤ 32) :
    display.collides (memory.slice address height) x y = true ↔
      ∃ pixel ∈ targets memory x y address height, display.lit pixel.1 pixel.2 = true := by
  simp only [collides_iff, Memory.length_slice,
    spriteBit_eq_decide_mem memory x y address height_le, decide_eq_true_eq, Prod.exists, and_comm]

/-- Looking up the bit over each pixel draws what going through the bits draws. -/
theorem draw_slice_eq_scatter (display : Display) (memory : Memory) (x y : Int) (address : Nat)
    {height : Nat} (height_le : height ≤ 32) :
    display.draw (memory.slice address height) x y =
      display.scatter memory x y address height := by
  rcases foldl_strike (nodup_targets memory x y address height_le) (display, false) with
    ⟨lit_eq, collided_eq⟩
  rw [scatter_eq_foldl, draw, Prod.mk.injEq]
  constructor
  · apply ext_lit
    · intro column row
      rw [lit_toggle_eq_xor_mem display memory x y address height_le]
      exact (lit_eq column row).symm
    · rfl
  · rw [collided_eq, Bool.false_or, Bool.eq_iff_iff,
      collides_slice_iff display memory x y address height_le, List.any_eq_true]

/-- A sprite that lies in memory and is not too high is drawn. -/
theorem drawSprite_of_inRange (display : Display) (memory : Memory) (x y : Int)
    {address height : Int} (inRange : Memory.InRange address height) (fits : height ≤ 32) :
    display.drawSprite memory x y address height =
      .ok (display.draw (memory.slice address.toNat height.toNat) x y) := by
  have found : memory.read address height = _ := Memory.read_eq_ok_iff.mpr ⟨inRange, rfl⟩
  rw [drawSprite, found]
  exact if_pos fits

/-- Drawing from memory checks the range and then the height, and otherwise goes through the bits
of the sprite. -/
theorem drawSprite_eq_scatter (display : Display) (memory : Memory) (x y address height : Int) :
    display.drawSprite memory x y address height =
      if Memory.InRange address height then
        if height ≤ 32 then .ok (display.scatter memory x y address.toNat height.toNat)
        else .error (.misuse (.spriteHeight height))
      else .error (.fault (.memoryAccess address height)) := by
  rw [drawSprite, Memory.read]
  by_cases inside : Memory.InRange address height
  · rw [if_pos inside, if_pos inside]
    dsimp only
    split
    · rw [draw_slice_eq_scatter display memory x y address.toNat (by omega)]
    · rfl
  · rw [if_neg inside, if_neg inside]

end Display

end Chip8
