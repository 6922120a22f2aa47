import Chip8.Display.Basic
import Chip8.Display.Color

/-!
# Images of the display

An image is a list of rows of colours. Enlarging by a factor repeats each colour of a row that many
times and then each row as often, so each pixel becomes a square. For a window that takes packed
words there is also the framebuffer of a colour scheme.
-/

namespace Chip8

/-- The rows of a picture from the top, each from the left. -/
abbrev Image := List (List Rgb)

def repeatEach {Item : Type} (factor : Nat) (items : List Item) : List Item :=
  items.flatMap (List.replicate factor)

namespace Image

/-- Turns every pixel of an image into a square of the given side. -/
def enlarge (factor : Nat) (image : Image) : Image :=
  repeatEach factor (image.map (repeatEach factor))

end Image

namespace Display

/-- The picture of the display in its own size. -/
def picture (display : Display) (on off : Rgb) : Image :=
  display.rows.toList.map fun row => row.toList.map fun pixel => if pixel then on else off

def image (display : Display) (factor : Nat) (on off : Rgb) : Image :=
  (display.picture on off).enlarge factor

def standardScale : Int := 8

/-- The picture of the display with a factor and colours that a host gives. The factor is checked
first, then the colour of the pixels that are on. -/
def render (display : Display) (scale : Int) (on off : List Int) : Except Misuse Image := do
  if scale < 1 then
    throw (.scale scale)
  let on ← Rgb.ofComponents on
  let off ← Rgb.ofComponents off
  return display.image scale.toNat on off

/-- The framebuffer of packed words in the colours of a scheme. -/
def xrgb (display : Display) (scheme : ColorScheme) : Vector UInt32 2048 :=
  display.framebuffer scheme.on.pack scheme.off.pack

def xrgbNamed (display : Display) (name : String) : Except Misuse (Vector UInt32 2048) :=
  (ColorScheme.named name).map display.xrgb

end Display

end Chip8
