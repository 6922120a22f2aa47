import Chip8.Quoted.Unseen

/-!
# Quoted text

A text within a list stands in single quotes, or in double quotes if it holds single quotes and no
double ones. The quote that is used, the backslash and the characters that cannot be seen are
written as escapes: line feed, carriage return and tabulator by a letter, the others by their code
point in two, four or eight digits of base sixteen. All other characters stand for themselves.
-/

namespace Chip8

namespace Quoted

/-- The character can be seen: no range of the table holds its code point. -/
def isSeen (character : Char) : Bool :=
  !unseen.any fun (first, last) => first ≤ character.toNat && character.toNat ≤ last

/-- A code point in lower-case digits of base sixteen. -/
def digits (width code : Nat) : List Char :=
  (Nat.toDigits 16 code).leftpad width '0'

/-- One character between two quotes. -/
def escape (quote character : Char) : List Char :=
  let code := character.toNat
  if character = quote ∨ code = 0x5C then ['\x5c', character]
  else if code = 0x9 then ['\x5c', 't']
  else if code = 0xA then ['\x5c', 'n']
  else if code = 0xD then ['\x5c', 'r']
  else if isSeen character then [character]
  else if code < 0x100 then '\x5c' :: 'x' :: digits 2 code
  else if code < 0x10000 then '\x5c' :: 'u' :: digits 4 code
  else '\x5c' :: 'U' :: digits 8 code

/-- The quote in which a text stands. -/
def quoteOf (text : List Char) : Char :=
  if text.contains '\x27' && !text.contains '\x22' then '\x22' else '\x27'

/-- A text in quotes. -/
def write (text : String) : String :=
  let quote := quoteOf text.toList
  String.ofList (quote :: text.toList.flatMap (escape quote) ++ [quote])

end Quoted

end Chip8
