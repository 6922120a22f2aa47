import Chip8.Word

/-!
# Colours

A colour has a red, a green and a blue byte. A host may also name it by a list of components, where
a single component stands for all three. Packing puts the components into the three low bytes of a
word, red highest; it is defined for integers of any size, read in two's complement.
-/

namespace Chip8

/-- A colour in eight bits a component. -/
structure Rgb where
  red : UInt8
  green : UInt8
  blue : UInt8
  deriving DecidableEq, Repr

/-- Bitwise disjunction of integers in two's complement, in which a negative integer has ones in all
of its high places. -/
def bitwiseOr : Int → Int → Int
  | .ofNat left, .ofNat right => .ofNat (left ||| right)
  | .ofNat left, .negSucc right => .negSucc (right - (right &&& left))
  | .negSucc left, .ofNat right => .negSucc (left - (left &&& right))
  | .negSucc left, .negSucc right => .negSucc (left &&& right)

namespace Rgb

def black : Rgb := ⟨0, 0, 0⟩

def white : Rgb := ⟨255, 255, 255⟩

/-- The colour that a list of components names. Components are checked before their number. -/
def ofComponents (components : List Int) : Except Misuse Rgb := do
  match ← Word.bytes components with
  | [level] => .ok ⟨level, level, level⟩
  | [red, green, blue] => .ok ⟨red, green, blue⟩
  | other => .error (.colorComponents other.length)

/-- Three integers packed at distances of eight bits, the first one highest. -/
def packIntegers (red green blue : Int) : Int :=
  bitwiseOr (bitwiseOr (red * 0x10000) (green * 0x100)) blue

def packComponents : List Int → Except Misuse Int
  | [red, green, blue] => .ok (packIntegers red green blue)
  | other => .error (.colorComponents other.length)

/-- A colour as a word whose high byte is zero. -/
def pack (color : Rgb) : UInt32 :=
  UInt32.ofInt (packIntegers color.red.toNat color.green.toNat color.blue.toNat)

end Rgb

/-- A pair of colours for pixels that are on and off. -/
structure ColorScheme where
  name : String
  on : Rgb
  off : Rgb
  deriving DecidableEq, Repr

namespace ColorScheme

def all : List ColorScheme := [
  ⟨"white", .white, .black⟩,
  ⟨"classic", ⟨0, 255, 0⟩, .black⟩,
  ⟨"amber", ⟨255, 176, 0⟩, .black⟩,
  ⟨"blue", ⟨0, 255, 255⟩, ⟨0, 0, 64⟩⟩,
  ⟨"retro", ⟨255, 255, 0⟩, ⟨64, 0, 64⟩⟩,
  ⟨"sky", ⟨0x68, 0xBB, 0xED⟩, ⟨0x2C, 0x50, 0x66⟩⟩]

def standardName : String := "white"

def named (name : String) : Except Misuse ColorScheme :=
  match all.find? fun scheme => scheme.name == name with
  | some scheme => .ok scheme
  | none => .error (.colorScheme name (all.map ColorScheme.name))

end ColorScheme

end Chip8
