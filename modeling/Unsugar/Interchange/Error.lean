import Unsugar.Interchange.Path
import Unsugar.Json.Parser

/-!
# Errors of reading forms
-/

namespace Unsugar

/-- What a scalar field should have been. -/
inductive Expected where
  | string | integer | number | natural | character
deriving DecidableEq, Repr

def Expected.text : Expected → String
  | .string => "a string"
  | .integer => "an integer"
  | .number => "a number"
  | .natural => "a non-negative integer"
  | .character => "a single character"

/-- Why a value holds no forms, with the path to the value at fault. -/
inductive ReadError where
  | text (error : Json.TextError)
  | expectedList (path : Path)
  | expectedObject (path : Path)
  | missingField (path : Path) (name : String)
  | wrongType (path : Path) (expected : Expected)
  | invalidLocation (path : Path)
  | unknownQualifier (path : Path) (name : String)
deriving DecidableEq, Repr

namespace ReadError

def message : ReadError → String
  | text e => "input was not valid JSON: " ++ e.message
  | expectedList p => "expected a list at " ++ p.text
  | expectedObject p => "expected an object at " ++ p.text
  | missingField p name => s!"missing field {name} at {p.text}"
  | wrongType p expected => s!"expected {expected.text} at {p.text}"
  | invalidLocation p => "invalid location annotation at " ++ p.text
  | unknownQualifier p name => s!"unknown comprehension qualifier {name} at {p.text}"

/-- The path to the value at fault; a text that is no JSON has none. -/
def path? : ReadError → Option Path
  | text _ => none
  | expectedList p | expectedObject p | missingField p _ | wrongType p _ | invalidLocation p
  | unknownQualifier p _ => some p

end ReadError

end Unsugar
