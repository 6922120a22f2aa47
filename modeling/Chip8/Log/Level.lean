import Chip8.Fault

/-!
# Log levels

Five levels from `DEBUG` to `CRITICAL`. A label need not be a level: labels are compared by their
upper-case form, and one that names no level ranks with `INFO`.
-/

namespace Chip8

inductive Level where
  | debug
  | info
  | warning
  | error
  | critical
  deriving DecidableEq, Repr

namespace Level

def all : List Level :=
  [.debug, .info, .warning, .error, .critical]

def rank : Level → Nat
  | .debug => 0
  | .info => 1
  | .warning => 2
  | .error => 3
  | .critical => 4

def name : Level → String
  | .debug => "DEBUG"
  | .info => "INFO"
  | .warning => "WARNING"
  | .error => "ERROR"
  | .critical => "CRITICAL"

/-- The upper-case form of a letter as far as it lies in ASCII. Besides `a` to `z`, the dotless i
and the long s have such a form, and no other letter alone does. -/
def upperLetter (letter : Char) : Char :=
  if letter = 'ı' then 'I'
  else if letter = 'ſ' then 'S'
  else letter.toUpper

/-- The upper-case form by which labels are compared. Letters whose upper-case form is none of a
single ASCII letter are kept, since no name that a label is compared with could match there. -/
def upperCase (label : String) : String :=
  String.ofList (label.toList.map upperLetter)

def ofLabel? (label : String) : Option Level :=
  all.find? fun level => level.name == upperCase label

def ofLabel (label : String) : Except Misuse Level :=
  match ofLabel? label with
  | some level => .ok level
  | none => .error (.logLevel label (all.map name))

end Level

end Chip8
