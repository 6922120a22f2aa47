import Chip8.Word

/-!
# Counter-based random bytes

Threefry-2x32 with twenty rounds turns a key and a counter, two 32-bit words each, into two more
words. The generator state of the machine is a key. A sample encrypts two counters under it: one
result is the next key, the other a key of its own, from which the byte is made.
-/

namespace Chip8

/-- Two 32-bit words: a key, a counter, or the result of encrypting a counter. -/
structure WordPair where
  first : UInt32
  second : UInt32
  deriving DecidableEq, Repr

namespace Threefry

def rotate (word distance : UInt32) : UInt32 :=
  (word <<< distance) ||| (word >>> (32 - distance))

/-- One round: add the second word to the first, rotate the second and add the first without
carries. -/
def mix (state : WordPair) (distance : UInt32) : WordPair :=
  let sum := state.first + state.second
  ⟨sum, rotate state.second distance ^^^ sum⟩

/-- The distances of the rounds of even and odd groups. -/
def distances (group : Nat) : List UInt32 :=
  if group % 2 = 0 then [13, 15, 26, 6] else [17, 29, 16, 24]

/-- The word of the extended key that has a given index; the indices go round in threes. -/
def keyWord (key : WordPair) (index : Nat) : UInt32 :=
  match index % 3 with
  | 0 => key.first
  | 1 => key.second
  | _ => key.first ^^^ key.second ^^^ 0x1BD11BDA

/-- Four rounds, after which the next words of the extended key and the number of the group are
added. -/
def runGroup (key state : WordPair) (group : Nat) : WordPair :=
  let mixed := (distances group).foldl mix state
  ⟨mixed.first + keyWord key (group + 1),
    mixed.second + keyWord key (group + 2) + UInt32.ofNat (group + 1)⟩

def encrypt (key counter : WordPair) : WordPair :=
  (List.range 5).foldl (runGroup key)
    ⟨counter.first + keyWord key 0, counter.second + keyWord key 1⟩

/-- The key of a seed. Seeds are 64-bit integers, of which the low word counts. -/
def ofSeed (seed : Int) : Except Misuse WordPair :=
  (Word.signed 64 seed).map fun seed => ⟨0, UInt32.ofInt seed⟩

def next (key : WordPair) : WordPair :=
  encrypt key ⟨0, 0⟩

def byte (key : WordPair) : UInt8 :=
  let word := encrypt (encrypt (encrypt key ⟨0, 1⟩) ⟨0, 1⟩) ⟨0, 0⟩
  (word.first ^^^ word.second).toUInt8

end Threefry

end Chip8
