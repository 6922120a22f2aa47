import Chip8.Display.Basic

/-!
# Pixels kept as bytes

The pixels of a display can also be kept in a grid of bytes, column by column, with 1 for a pixel
that is on and 0 for one that is off. A sprite has such a byte over each pixel too: the byte of its
row, shifted until the bit for the pixel comes last, and cut down to that bit. Drawing joins the two
bytes by an exclusive or, and a pixel has been turned off where they have a bit in common.

A grid could hold any bytes. That drawing keeps them at 0 and 1, whatever the bytes of the sprite
are, comes from cutting; and then the grid holds the pixels of the display.
-/

namespace Chip8

structure PixelBytes where
  columns : Vector (Vector UInt8 32) 64

namespace PixelBytes

def ofCells (cell : Fin 64 → Fin 32 → UInt8) : PixelBytes :=
  ⟨Vector.ofFn fun column => Vector.ofFn fun row => cell column row⟩

def cell (pixels : PixelBytes) (column : Fin 64) (row : Fin 32) : UInt8 :=
  (pixels.columns.get column).get row

@[simp]
theorem cell_ofCells (bytes : Fin 64 → Fin 32 → UInt8) (column : Fin 64) (row : Fin 32) :
    (ofCells bytes).cell column row = bytes column row := by
  have line : (ofCells bytes).columns.get column = Vector.ofFn (bytes column) :=
    Vector.getElem_ofFn column.isLt
  rw [cell, line]
  exact Vector.getElem_ofFn row.isLt

theorem ext_cell {left right : PixelBytes}
    (same : ∀ column row, left.cell column row = right.cell column row) : left = right := by
  obtain ⟨leftColumns⟩ := left
  obtain ⟨rightColumns⟩ := right
  congr 1
  apply ext_grid
  intro column row
  exact same column row

def dark : PixelBytes :=
  ofCells fun _ _ => 0

/-- The byte that a sprite of some height with its top left corner at `(x, y)` has over a pixel. -/
def spriteCell (rows : Vector UInt8 32) (spriteHeight : Nat) (x y : Int) (column : Fin 64)
    (row : Fin 32) : UInt8 :=
  let across := ((column : Int) - x % 64) % 64
  let down := ((row : Int) - y % 32) % 32
  let shift := max 0 (min (7 - across) 7)
  if across < 8 ∧ down < spriteHeight then
    UInt8.ofNat ((rows[down.toNat]?.getD 0).toNat >>> shift.toNat &&& 1)
  else 0

/-- Joins the bytes of a sprite to those of the pixels. -/
def blit (pixels : PixelBytes) (sprite : List UInt8) (x y : Int) : PixelBytes :=
  let mask := spriteCell (Display.spriteRows sprite) sprite.length x y
  ofCells fun column row => pixels.cell column row ^^^ mask column row

/-- The bytes of a sprite have a bit in common with those of the pixels. -/
def collides (pixels : PixelBytes) (sprite : List UInt8) (x y : Int) : Bool :=
  let mask := spriteCell (Display.spriteRows sprite) sprite.length x y
  (List.finRange 64).any fun column =>
    (List.finRange 32).any fun row => pixels.cell column row &&& mask column row != 0

/-- Draws the rows of a sprite, and tells whether that turned a pixel off. -/
def draw (pixels : PixelBytes) (sprite : List UInt8) (x y : Int) : PixelBytes × Bool :=
  (pixels.blit sprite x y, pixels.collides sprite x y)

/-- The rows from the top, one behind the other. -/
def rowMajor (pixels : PixelBytes) : Vector UInt8 2048 :=
  (Vector.ofFn fun (row : Fin 32) =>
    Vector.ofFn fun (column : Fin 64) => pixels.cell column row).flatten

def IsBinary (pixels : PixelBytes) : Prop :=
  ∀ column row, pixels.cell column row = 0 ∨ pixels.cell column row = 1

/-- Shifting a number and cutting it down to its last bit leaves the bit at that place. -/
theorem ofNat_shiftRight_and_one (value place : Nat) :
    UInt8.ofNat (value >>> place &&& 1) = (value.testBit place).toUInt8 := by
  rw [Nat.testBit, Nat.and_comm 1, Nat.and_one_is_mod]
  rcases Nat.mod_two_eq_zero_or_one (value >>> place) with even | odd
  · rw [even]
    rfl
  · rw [odd]
    rfl

theorem spriteCell_eq_toUInt8 (rows : Vector UInt8 32) (spriteHeight : Nat) (x y : Int)
    (column : Fin 64) (row : Fin 32) :
    spriteCell rows spriteHeight x y column row =
      (Display.spriteBit rows spriteHeight x y column row).toUInt8 := by
  simp only [spriteCell, Display.spriteBit, ofNat_shiftRight_and_one, ← Bool.decide_and]
  split
  · rename_i inside
    rw [decide_eq_true inside, Bool.true_and]
  · rename_i outside
    rw [decide_eq_false outside, Bool.false_and]
    rfl

theorem toUInt8_eq_zero_or_one (bit : Bool) : bit.toUInt8 = 0 ∨ bit.toUInt8 = 1 := by
  cases bit with
  | false => exact .inl rfl
  | true => exact .inr rfl

theorem spriteCell_eq_zero_or_one (rows : Vector UInt8 32) (spriteHeight : Nat) (x y : Int)
    (column : Fin 64) (row : Fin 32) :
    spriteCell rows spriteHeight x y column row = 0 ∨
      spriteCell rows spriteHeight x y column row = 1 := by
  rw [spriteCell_eq_toUInt8]
  apply toUInt8_eq_zero_or_one

namespace IsBinary

theorem dark : dark.IsBinary := by
  intro column row
  exact .inl (cell_ofCells ..)

theorem blit {pixels : PixelBytes} (binary : pixels.IsBinary) (sprite : List UInt8) (x y : Int) :
    (pixels.blit sprite x y).IsBinary := by
  intro column row
  rw [PixelBytes.blit, cell_ofCells]
  rcases binary column row with before | before <;>
    rcases spriteCell_eq_zero_or_one (Display.spriteRows sprite) sprite.length x y column row with
      masked | masked <;>
    simp [before, masked]

theorem of_mem_rowMajor {pixels : PixelBytes} (binary : pixels.IsBinary) {byte : UInt8}
    (shown : byte ∈ pixels.rowMajor) : byte = 0 ∨ byte = 1 := by
  rcases Vector.mem_flatten.mp shown with ⟨line, line_mem, byte_mem⟩
  rcases Vector.mem_ofFn.mp line_mem with ⟨row, rfl⟩
  rcases Vector.mem_ofFn.mp byte_mem with ⟨column, rfl⟩
  exact binary column row

end IsBinary

end PixelBytes

namespace Display

/-- The pixels of the display as bytes. -/
def bytes (display : Display) : PixelBytes :=
  .ofCells fun column row => (display.lit column row).toUInt8

@[simp]
theorem cell_bytes (display : Display) (column : Fin 64) (row : Fin 32) :
    display.bytes.cell column row = (display.lit column row).toUInt8 := by
  simp [bytes]

@[simp]
theorem bytes_clear (display : Display) : display.clear.bytes = .dark := by
  apply PixelBytes.ext_cell
  intro column row
  rw [cell_bytes, lit_clear, PixelBytes.dark, PixelBytes.cell_ofCells]
  rfl

theorem bytes_toggle (display : Display) (sprite : List UInt8) (x y : Int) :
    (display.toggle sprite x y).bytes = display.bytes.blit sprite x y := by
  apply PixelBytes.ext_cell
  intro column row
  rw [cell_bytes, lit_toggle, PixelBytes.blit, PixelBytes.cell_ofCells, cell_bytes,
    PixelBytes.spriteCell_eq_toUInt8]
  generalize display.lit column row = before
  generalize spriteBit (spriteRows sprite) sprite.length x y column row = mask
  cases before <;> cases mask <;> rfl

theorem collides_bytes (display : Display) (sprite : List UInt8) (x y : Int) :
    display.bytes.collides sprite x y = display.collides sprite x y := by
  rw [Bool.eq_iff_iff, collides_iff, PixelBytes.collides]
  simp only [List.any_eq_true, List.mem_finRange, true_and, cell_bytes,
    PixelBytes.spriteCell_eq_toUInt8]
  apply exists_congr
  intro column
  apply exists_congr
  intro row
  generalize display.lit column row = before
  generalize spriteBit (spriteRows sprite) sprite.length x y column row = mask
  cases before <;> cases mask <;> decide

/-- Drawing on the bytes is drawing on the pixels, and tells the same. -/
theorem draw_bytes (display : Display) (sprite : List UInt8) (x y : Int) :
    display.bytes.draw sprite x y =
      ((display.draw sprite x y).1.bytes, (display.draw sprite x y).2) := by
  rw [PixelBytes.draw, ← bytes_toggle, collides_bytes]
  rfl

theorem isBinary_bytes (display : Display) : display.bytes.IsBinary := by
  intro column row
  rw [cell_bytes]
  apply PixelBytes.toUInt8_eq_zero_or_one

/-- The framebuffer has a value for each of the bytes, row by row. -/
theorem framebuffer_eq_map_rowMajor {Value : Type} (display : Display) (on off : Value) :
    display.framebuffer on off =
      display.bytes.rowMajor.map fun byte => if byte = 0 then off else on := by
  apply Vector.ext
  intro index inside
  simp only [framebuffer, PixelBytes.rowMajor, Vector.getElem_ofFn, Vector.getElem_map]
  rw [Vector.getElem_flatten]
  simp only [Vector.getElem_ofFn, cell_bytes]
  split
  · rename_i isLit
    rw [isLit]
    rfl
  · rename_i isDark
    rw [Bool.eq_false_iff.mpr isDark]
    rfl

theorem framebuffer_one_zero (display : Display) :
    display.framebuffer 1 0 = display.bytes.rowMajor := by
  rw [framebuffer_eq_map_rowMajor]
  apply Vector.ext
  intro index inside
  rw [Vector.getElem_map]
  rcases display.isBinary_bytes.of_mem_rowMajor (Vector.getElem_mem inside) with off | on
  · rw [off]
    rfl
  · rw [on]
    rfl

end Display

end Chip8
