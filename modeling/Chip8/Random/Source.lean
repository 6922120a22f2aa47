import Chip8.Random.Threefry

/-!
# Where random bytes come from

A program that asks for a random byte gets it from the generator whose key the machine holds, or
from a script: a fixed sequence of bytes that is repeated for ever. A script keeps count of the
bytes it has given, and starts over when it is rewound, unless it is one that cannot be rewound.
-/

namespace Chip8

/-- A sequence of bytes to repeat, and how many have been given. -/
structure Script where
  bytes : List UInt8
  position : Nat
  nonempty : bytes ≠ []
  deriving DecidableEq, Repr

namespace Script

/-- The script of the low bytes of a list of integers. -/
def ofIntegers (values : List Int) : Except Misuse Script :=
  if present : values.map UInt8.ofInt ≠ [] then .ok ⟨values.map UInt8.ofInt, 0, present⟩
  else .error .emptyScript

def byte (script : Script) : UInt8 :=
  script.bytes.get ⟨script.position % script.bytes.length,
    Nat.mod_lt _ (List.length_pos_iff.mpr script.nonempty)⟩

def next (script : Script) : Script :=
  { script with position := script.position + 1 }

def rewind (script : Script) : Script :=
  { script with position := 0 }

end Script

/-- The origin of the random bytes of a program. -/
inductive RandomSource where
  | generator
  /-- A script, and whether it can be rewound. -/
  | scripted (script : Script) (rewindable : Bool)
  deriving DecidableEq, Repr

namespace RandomSource

/-- The next byte, given the key of the machine's generator. -/
def byte (source : RandomSource) (key : WordPair) : UInt8 :=
  match source with
  | .generator => Threefry.byte key
  | .scripted script _ => script.byte

/-- The machine's key after a sample, which only the generator moves. -/
def nextKey (source : RandomSource) (key : WordPair) : WordPair :=
  match source with
  | .generator => Threefry.next key
  | .scripted _ _ => key

def next : RandomSource → RandomSource
  | .generator => .generator
  | .scripted script rewindable => .scripted script.next rewindable

def rewind : RandomSource → RandomSource
  | .scripted script true => .scripted script.rewind true
  | source => source

def position? : RandomSource → Option Nat
  | .generator => none
  | .scripted script _ => some script.position

end RandomSource

end Chip8
