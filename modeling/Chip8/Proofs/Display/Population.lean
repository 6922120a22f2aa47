import Chip8.Proofs.Display.Blit

/-!
# How many pixels are on

A sprite adds as many pixels to a display as it has set bits, except that a bit over a pixel that is
on takes that pixel away instead. The pixels are counted as sets: what is on after the drawing is
the symmetric difference of what was on before and of the pixels on which the set bits land. There
are as many of the latter as set bits, because no bit is lost at an edge and no two bits land on the
same pixel.
-/

namespace Chip8

/-- The number of set bits in a range of bytes. -/
def Memory.setBits (memory : Memory) (address count : Nat) : Nat :=
  ((memory.slice address count).map fun byte => (List.range 8).countP byte.toNat.testBit).sum

namespace Display

def litPixels (display : Display) : Finset Pixel :=
  Finset.univ.filter fun pixel => display.lit pixel.1 pixel.2 = true

/-- The number of pixels that are on. -/
def population (display : Display) : Nat :=
  display.litPixels.card

/-- The number of set bits of a sprite that land on a pixel that is on. -/
def struck (display : Display) (memory : Memory) (x y : Int) (address height : Nat) : Nat :=
  (targets memory x y address height).countP fun pixel => display.lit pixel.1 pixel.2

@[simp]
theorem mem_litPixels {display : Display} {pixel : Pixel} :
    pixel ∈ display.litPixels ↔ display.lit pixel.1 pixel.2 = true := by
  simp [litPixels]

theorem length_rowTargets (bits : UInt8) (x y : Int) :
    (rowTargets bits x y).length = (List.range 8).countP bits.toNat.testBit := by
  have mirrored : (List.range 8).map (7 - ·) = (List.range 8).reverse := by decide
  calc
    (rowTargets bits x y).length =
        (List.range 8).countP fun bit => bits.toNat.testBit (7 - bit) := by
      rw [rowTargets, List.length_map, List.countP_eq_length_filter]
    _ = ((List.range 8).map (7 - ·)).countP bits.toNat.testBit := by
      rw [List.countP_map]
      rfl
    _ = (List.range 8).countP bits.toNat.testBit := by
      rw [mirrored, List.countP_reverse]

/-- Every set bit of a sprite lands on a pixel. -/
theorem length_targets (memory : Memory) (x y : Int) (address height : Nat) :
    (targets memory x y address height).length = memory.setBits address height := by
  simp only [targets, Memory.setBits, Memory.slice, List.length_flatMap, length_rowTargets,
    List.range'_eq_map_range, List.map_map, Function.comp_def]

theorem litPixels_toggle_slice (display : Display) (memory : Memory) (x y : Int) (address : Nat)
    {height : Nat} (height_le : height ≤ 32) :
    (display.toggle (memory.slice address height) x y).litPixels =
      symmDiff display.litPixels (targets memory x y address height).toFinset := by
  ext pixel
  rw [mem_litPixels, lit_toggle_eq_xor_mem display memory x y address height_le,
    Finset.mem_symmDiff, mem_litPixels, List.mem_toFinset]
  rcases display.lit pixel.1 pixel.2 <;> simp

theorem card_litPixels_inter_targets (display : Display) (memory : Memory) (x y : Int)
    (address : Nat) {height : Nat} (height_le : height ≤ 32) :
    (display.litPixels ∩ (targets memory x y address height).toFinset).card =
      display.struck memory x y address height := by
  have distinct := (nodup_targets memory x y address height_le).filter
    fun pixel => display.lit pixel.1 pixel.2
  have common : display.litPixels ∩ (targets memory x y address height).toFinset =
      ((targets memory x y address height).filter
        fun pixel => display.lit pixel.1 pixel.2).toFinset := by
    ext pixel
    simp only [Finset.mem_inter, mem_litPixels, List.mem_toFinset, List.mem_filter, and_comm]
  rw [common, List.toFinset_card_of_nodup distinct, struck, List.countP_eq_length_filter]

end Display

/-- What two sets have in common is missing twice from their symmetric difference. -/
theorem card_symmDiff_add (left right : Finset Pixel) :
    (symmDiff left right).card + 2 * (left ∩ right).card = left.card + right.card := by
  have disjoint : Disjoint (left \ right) (right \ left) := disjoint_sdiff_sdiff
  have leftSplit := Finset.card_sdiff_add_card_inter left right
  have rightSplit := Finset.card_sdiff_add_card_inter right left
  rw [Finset.inter_comm] at rightSplit
  rw [symmDiff, Finset.sup_eq_union, Finset.card_union_of_disjoint disjoint]
  omega

namespace Display

/-- A sprite that is drawn changes the number of pixels that are on by its set bits, less twice
those of them that land on a pixel that is on. It collides if there is such a bit, and so if and
only if the number falls short of the bits that are added. -/
theorem population_drawSprite (display : Display) (memory : Memory) (x y : Int)
    {address height : Int} (inRange : Memory.InRange address height) (fits : height ≤ 32) :
    ∃ drawn collided,
      display.drawSprite memory x y address height = .ok (drawn, collided) ∧
        let bits := memory.setBits address.toNat height.toNat
        let struck := display.struck memory x y address.toNat height.toNat
        (drawn.population : Int) = display.population + bits - 2 * struck ∧
          (collided = true ↔ 0 < struck) ∧
          (collided = true ↔ drawn.population < display.population + bits) := by
  have height_le : height.toNat ≤ 32 := by omega
  refine ⟨_, _, drawSprite_of_inRange display memory x y inRange fits, ?_⟩
  intro bits struck
  have balance : (display.toggle (memory.slice address.toNat height.toNat) x y).population +
      2 * struck = display.population + bits := by
    have counted := card_symmDiff_add display.litPixels
      (targets memory x y address.toNat height.toNat).toFinset
    rwa [← litPixels_toggle_slice display memory x y address.toNat height_le,
      card_litPixels_inter_targets display memory x y address.toNat height_le,
      List.toFinset_card_of_nodup (nodup_targets memory x y address.toNat height_le),
      length_targets] at counted
  have collides : display.collides (memory.slice address.toNat height.toNat) x y = true ↔
      0 < struck := by
    rw [collides_slice_iff display memory x y address.toNat height_le]
    exact List.countP_pos_iff.symm
  refine ⟨by omega, collides, ?_⟩
  rw [collides]
  omega

/-- A digit around a corner of a display whose leftmost column is on. -/
theorem cornerDigit_population :
    let display := ofPixels (fun column _ => decide (column.val = 0)) false
    (Memory.InRange 0x50 5 ∧ (5 : Int) ≤ 32) ∧
      Memory.powerOn.setBits 0x50 5 = 14 ∧ display.struck .powerOn (-2) 30 0x50 5 = 2 ∧
      ∃ drawn, display.drawSprite .powerOn (-2) 30 0x50 5 = .ok (drawn, true) ∧
        (drawn.population : Int) = display.population + 14 - 2 * 2 := by
  intro display
  have bits_eq : Memory.powerOn.setBits 0x50 5 = 14 := by decide +kernel
  have struck_eq : display.struck .powerOn (-2) 30 0x50 5 = 2 := by decide +kernel
  have inBounds : Memory.InRange 0x50 5 ∧ (5 : Int) ≤ 32 := by decide
  rcases population_drawSprite display .powerOn (-2) 30 inBounds.1 inBounds.2 with
    ⟨drawn, collided, drew, balance, collides, _⟩
  simp only [Int.reduceToNat, bits_eq, struck_eq] at balance collides
  obtain rfl : collided = true := collides.mpr (by decide)
  exact ⟨inBounds, bits_eq, struck_eq, drawn, drew, balance⟩

end Display

end Chip8
