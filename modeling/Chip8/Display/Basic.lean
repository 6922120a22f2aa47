import Chip8.Machine.Memory

/-!
# The display

The display is 64 columns by 32 rows of pixels that are on or off, with a flag that says whether
anything has been drawn since it was last lowered. Sprites are eight columns wide, one byte a row
with the leftmost pixel in the most significant bit. Drawing one toggles the pixels under its set
bits, wraps around both edges, and tells whether it turned any pixel off.

Whether a pixel is toggled is stated pixel by pixel: the distance of the pixel from the sprite's
corner, taken around the edge, selects the sprite's row and bit. The rows come from a table that is
as high as the display, and the shift that selects a bit is clipped to a byte, so both are defined
for a pixel outside the sprite too; such a pixel is masked out.
-/

namespace Chip8

/-- Grids with the same cells are equal. -/
theorem ext_grid {Cell : Type} {lines places : Nat}
    {left right : Vector (Vector Cell places) lines}
    (same : ∀ (line : Fin lines) (place : Fin places), left[line][place] = right[line][place]) :
    left = right := by
  apply Vector.ext
  intro line lineInside
  apply Vector.ext
  intro place placeInside
  exact same ⟨line, lineInside⟩ ⟨place, placeInside⟩

/-- The pixels, row by row, and whether they have been drawn on. -/
structure Display where
  rows : Vector (Vector Bool 64) 32
  dirty : Bool
  deriving DecidableEq, Repr

namespace Display

def width : Nat := 64

def height : Nat := 32

def spriteWidth : Nat := 8

/-- The display that shows the given pixels. -/
def ofPixels (pixel : Fin 64 → Fin 32 → Bool) (dirty : Bool) : Display :=
  ⟨Vector.ofFn fun row => Vector.ofFn fun column => pixel column row, dirty⟩

def lit (display : Display) (column : Fin 64) (row : Fin 32) : Bool :=
  display.rows[row][column]

@[simp]
theorem lit_ofPixels (pixel : Fin 64 → Fin 32 → Bool) (dirty : Bool) (column : Fin 64)
    (row : Fin 32) : (ofPixels pixel dirty).lit column row = pixel column row := by
  simp [lit, ofPixels]

@[simp]
theorem dirty_ofPixels (pixel : Fin 64 → Fin 32 → Bool) (dirty : Bool) :
    (ofPixels pixel dirty).dirty = dirty :=
  rfl

theorem ext_lit {left right : Display}
    (samePixels : ∀ column row, left.lit column row = right.lit column row)
    (sameFlag : left.dirty = right.dirty) : left = right := by
  obtain ⟨leftRows, leftDirty⟩ := left
  obtain ⟨rightRows, rightDirty⟩ := right
  obtain rfl : leftDirty = rightDirty := sameFlag
  congr 1
  apply ext_grid
  intro row column
  exact samePixels column row

/-- The dark display with its flag up, as at power-on and after clearing. -/
def blank : Display :=
  ofPixels (fun _ _ => false) true

def clear (_display : Display) : Display :=
  blank

def clearDirty (display : Display) : Display :=
  { display with dirty := false }

/-- The rows of a sprite, filled up with empty rows to the height of the display. -/
def spriteRows (sprite : List UInt8) : Vector UInt8 32 :=
  overlay (Vector.replicate 32 0) 0 sprite

/-- The bit that a sprite of some height with its top left corner at `(x, y)` has over a pixel. -/
def spriteBit (rows : Vector UInt8 32) (spriteHeight : Nat) (x y : Int) (column : Fin 64)
    (row : Fin 32) : Bool :=
  let across := ((column : Int) - x % 64) % 64
  let down := ((row : Int) - y % 32) % 32
  let shift := max 0 (min (7 - across) 7)
  across < 8 && down < spriteHeight && (rows[down.toNat]?.getD 0).toNat.testBit shift.toNat

/-- Some set bit of a sprite lies over a pixel that is on. -/
def collides (display : Display) (sprite : List UInt8) (x y : Int) : Bool :=
  let rows := spriteRows sprite
  (List.finRange 32).any fun row =>
    (List.finRange 64).any fun column =>
      display.lit column row && spriteBit rows sprite.length x y column row

/-- Toggles the pixels under the set bits of a sprite, and raises the flag. -/
def toggle (display : Display) (sprite : List UInt8) (x y : Int) : Display :=
  let rows := spriteRows sprite
  ofPixels
    (fun column row => display.lit column row ^^ spriteBit rows sprite.length x y column row) true

@[simp]
theorem lit_toggle (display : Display) (sprite : List UInt8) (x y : Int) (column : Fin 64)
    (row : Fin 32) :
    (display.toggle sprite x y).lit column row =
      (display.lit column row ^^ spriteBit (spriteRows sprite) sprite.length x y column row) := by
  simp [toggle]

@[simp]
theorem lit_clear (display : Display) (column : Fin 64) (row : Fin 32) :
    display.clear.lit column row = false := by
  simp [clear, blank]

@[simp]
theorem lit_clearDirty (display : Display) (column : Fin 64) (row : Fin 32) :
    display.clearDirty.lit column row = display.lit column row :=
  rfl

theorem collides_iff (display : Display) (sprite : List UInt8) (x y : Int) :
    display.collides sprite x y = true ↔
      ∃ column row, display.lit column row = true ∧
        spriteBit (spriteRows sprite) sprite.length x y column row = true := by
  simp only [collides, List.any_eq_true, List.mem_finRange, true_and, Bool.and_eq_true]
  exact exists_comm

/-- Draws the rows of a sprite, and tells whether that turned a pixel off. -/
def draw (display : Display) (sprite : List UInt8) (x y : Int) : Display × Bool :=
  (display.toggle sprite x y, display.collides sprite x y)

/-- Draws a sprite that lies in memory. Its range is checked before its height, which is at most
that of the display. -/
def drawSprite (display : Display) (memory : Memory) (x y address height : Int) :
    Except Error (Display × Bool) :=
  match memory.read address height with
  | .error cause => .error (.fault cause)
  | .ok sprite =>
      if height ≤ 32 then .ok (display.draw sprite x y)
      else .error (.misuse (.spriteHeight height))

/-- One value for each pixel that is on and another for each that is off, row by row. -/
def framebuffer {Value : Type} (display : Display) (on off : Value) : Vector Value 2048 :=
  Vector.ofFn fun index =>
    if display.lit ⟨index % 64, Nat.mod_lt _ (by decide)⟩ ⟨index / 64, by omega⟩ then on else off

/-- The entry of a pixel is at 64 times its row plus its column. -/
theorem getElem?_framebuffer {Value : Type} (display : Display) (on off : Value)
    (column : Fin 64) (row : Fin 32) :
    (display.framebuffer on off)[64 * row.val + column.val]? =
      some (if display.lit column row then on else off) := by
  have inside : 64 * row.val + column.val < 2048 := by omega
  have columnOf : (64 * row.val + column.val) % 64 = column.val := by omega
  have rowOf : (64 * row.val + column.val) / 64 = row.val := by omega
  rw [Vector.getElem?_eq_getElem inside]
  simp only [framebuffer, Vector.getElem_ofFn, columnOf, rowOf]

/-- The framebuffer with two integers, each of which has to fit a 64-bit word. -/
def integerFramebuffer (display : Display) (on off : Int) : Except Misuse (Vector Int 2048) := do
  let on ← Word.signed 64 on
  let off ← Word.signed 64 off
  return display.framebuffer on off

def withoutTrailingNul (text : String) : String :=
  String.ofList (text.toList.reverse.dropWhile (· == '\x00')).reverse

/-- The framebuffer with two texts. All of its entries are equally wide, and the shorter text is
filled up with NUL characters; so NUL characters at the end of a text are filling, and do not
count. -/
def textFramebuffer (display : Display) (on off : String) : Vector String 2048 :=
  display.framebuffer (withoutTrailingNul on) (withoutTrailingNul off)

end Display

end Chip8
