import Chip8.Detail
import Chip8.Display.Image
import Chip8.Session.Frames
import Chip8.Proofs.Instruction.Encoding
import Chip8.Proofs.Outcome
import Chip8.Proofs.Execution.Faults
import Chip8.Proofs.Execution.Effects
import Chip8.Proofs.Execution.Reachable
import Chip8.Proofs.Display.Blit
import Chip8.Proofs.Session.Cycles
import Chip8.Proofs.Session.Simulation
import Chip8.Proofs.Execution.Calls
import Chip8.Proofs.Session.Agreement
import Chip8.Proofs.Session.Restart
import Chip8.Proofs.Session.Filtering
import Chip8.Proofs.Execution.History
import Chip8.Proofs.Execution.Unread
import Chip8.Proofs.Session.Cadence
import Chip8.Proofs.Execution.Replay
import Chip8.Proofs.Execution.StraightLine
import Chip8.Proofs.Execution.Outputs
import Chip8.Proofs.Session.Polling
import Chip8.Proofs.Execution.Consultation
import Chip8.Proofs.Display.Superposition
import Chip8.Proofs.Execution.Pixels
import Chip8.Proofs.Execution.Stores
import Chip8.Proofs.Execution.Timers
import Chip8.Proofs.Numeral
import Chip8.Proofs.Session.Drawing
import Chip8.Proofs.Session.Incidents
import Chip8.Proofs.Session.Messages
import Chip8.Proofs.Session.Bookkeeping
import Chip8.Proofs.Execution.Waiting
import Chip8.Proofs.Execution.Footprint
import Chip8.Proofs.Execution.Arithmetic
import Chip8.Proofs.Execution.Continuation
import Chip8.Proofs.Display.Population
import Chip8.Proofs.Execution.Redrawing
import Chip8.Proofs.Execution.WideOpcodes
import Chip8.Proofs.Execution.Transfers
import Chip8.Proofs.Keypad.Answers
import Chip8.Proofs.Display.Rendering
import Chip8.Proofs.Execution.PowerOn
import Chip8.Proofs.Machine.ReturnStack
import Chip8.Proofs.Machine.Summary
