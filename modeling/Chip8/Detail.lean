import Chip8.Numeral
import Chip8.Quoted

/-!
# Errors of a host's own

Beside the faults of the machine, a host can report errors of its own. Such an error says nothing
but the details that the host gives: with no detail it has no text, a single detail is its text, and
several are listed in round brackets. Texts are quoted in a list but not on their own.
-/

namespace Chip8

open Numeral

/-- What a host says about an error of its own. -/
inductive Detail where
  | absent
  | truth (value : Bool)
  | integer (value : Int)
  | text (value : String)
  /-- Another error, by its kind and its own details. -/
  | error (kind : String) (details : List Detail)

namespace Detail

mutual

/-- A detail as it stands in a list. -/
def listed : Detail → String
  | .absent => "None"
  | .truth true => "True"
  | .truth false => "False"
  | .integer value => decimal value
  | .text value => Quoted.write value
  | .error kind details => String.join [kind, "(", String.intercalate ", " (listedAll details), ")"]

def listedAll : List Detail → List String
  | [] => []
  | detail :: rest => listed detail :: listedAll rest

end

/-- A detail on its own. -/
def plain : Detail → String
  | .text value => value
  | .error _ [] => ""
  | .error _ [detail] => plain detail
  | .error _ details => String.join ["(", String.intercalate ", " (listedAll details), ")"]
  | detail => listed detail

/-- The text of an error of a host's own. -/
def summary (details : List Detail) : String :=
  plain (.error "" details)

end Detail

end Chip8
