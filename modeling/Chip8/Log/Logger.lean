import Chip8.Log.Level
import Chip8.Log.Stamp

/-!
# The logger

A logger accepts the messages whose level ranks at least as high as its own. An accepted message
becomes an `Entry`; how an entry looks as a line (stamp, label, name of the logger, colours) is up
to the logger that accepted it.
-/

namespace Chip8

/-- A message that a logger has accepted. The label is what is printed for its level. -/
structure Entry where
  severity : Level
  label : String
  /-- When the message was logged, in eighths of a second. -/
  time : Int
  message : String
  deriving DecidableEq, Repr

/-- What decides which messages are accepted and how they look. -/
structure Logger where
  name : String
  level : Level
  colored : Bool
  stamped : Bool
  /-- When the logger was made, in eighths of a second; stamps count from here. -/
  started : Int
  deriving DecidableEq, Repr

namespace Logger

structure Options where
  name : String := "chip8vm"
  level : String := "INFO"
  /-- Colour the labels, if the output is a terminal. -/
  colors : Bool := true
  stamped : Bool := true
  deriving DecidableEq, Repr

/-- The name of the label that ends a coloured one. -/
def resetLabel : String := "RESET"

/-- The escape sequences of the labels that have one, `RESET` among them. -/
def escapes : List (String × String) := [
  (Level.debug.name, "\x1b[36m"),
  (Level.info.name, "\x1b[32m"),
  (Level.warning.name, "\x1b[33m"),
  (Level.error.name, "\x1b[31m"),
  (Level.critical.name, "\x1b[35m"),
  (resetLabel, "\x1b[0m")]

/-- The escape sequences that a logger uses, all empty if it does not colour. -/
def palette (logger : Logger) : List (String × String) :=
  if logger.colored then escapes else escapes.map fun (label, _) => (label, "")

def create (options : Options) (terminal : Bool) (now : Int) : Except Misuse Logger :=
  (Level.ofLabel options.level).map fun level =>
    { name := options.name
      level
      colored := options.colors && terminal
      stamped := options.stamped
      started := now }

def accepts (logger : Logger) (level : Level) : Bool :=
  decide (logger.level.rank ≤ level.rank)

def severity (label : String) : Level :=
  (Level.ofLabel? label).getD .info

/-- The entries that a message under some label makes, if it is accepted. -/
def entries (logger : Logger) (label : String) (now : Int) (message : String) : List Entry :=
  if logger.accepts (severity label) then [⟨severity label, label, now, message⟩] else []

/-- The label as it is printed, right-aligned in its brackets. -/
def labelField (logger : Logger) (label : String) : String :=
  let field := "[" ++ String.ofList (label.toList.leftpad 8 ' ') ++ "]"
  let escape (name : String) : String := (logger.palette.lookup name).getD ""
  escape (Level.upperCase label) ++ field ++ escape resetLabel

def line (logger : Logger) (entry : Entry) : String :=
  let stamp :=
    if logger.stamped then "[" ++ writeSeconds (elapsed logger.started entry.time) ++ "s]" else ""
  stamp ++ logger.labelField entry.label ++ "[" ++ logger.name ++ "] " ++ entry.message ++ "\n"

def text (logger : Logger) (entries : List Entry) : String :=
  String.join (entries.map logger.line)

end Logger

end Chip8
