import Unsugar.Proofs.Program.Arguments

/-!
# Command lines by what they ask for

A command line spells requests before its subcommand and behind it, where it may end with two dashes
and a file.

Main statement: the lines that are accepted are those that spell requests which can be granted
together, and the options are what the requests ask for (`parse_eq_ok`).
-/

namespace Unsugar.CommandLine

/-! ## Lines -/

/-- The end of a line. Behind two dashes a file may begin with a dash. -/
inductive SpellsEnd : List String → List Request → Prop
  | nil : SpellsEnd [] []
  | dashes : SpellsEnd ["--"] []
  | file (path : String) : SpellsEnd ["--", path] [.read path]

/-- The word of the subcommand that a level stands behind. -/
def Level.command? : Level → Option String
  | .top => none
  | .desugar => "rewrite"
  | .dump => "dump"
  | .explain => "explain"

/-- A command line by what it asks for: the requests before its subcommand, which stands for a level
of its own, and those behind it. -/
structure Line where
  before : List Request
  level : Level
  after : List Request

/-- The arguments spell the line, and each side of it can be granted. -/
structure Line.Spells (line : Line) (args : List String) : Prop where
  spelled : ∃ before command after last rs rs',
    args = before ++ command :: (after ++ last) ∧ line.level.command? = some command ∧
      CommandLine.Spells .top before line.before ∧ CommandLine.Spells line.level after rs ∧
      SpellsEnd last rs' ∧ line.after = rs ++ rs'
  before : IsProper line.before
  after : IsProper line.after

/-- The options that a line asks for. Of what is asked on both sides, the right side counts. -/
def Line.options (line : Line) : Options where
  statistics := .raise .statistics ∈ line.before ∨ .raise .statistics ∈ line.after
  verbose :=
    if .raise .verbose ∈ line.after then verbosity line.after else verbosity line.before
  quiet := .raise .quiet ∈ line.before ∨ .raise .quiet ∈ line.after
  logLevel := (logLevel? line.after).or (logLevel? line.before)
  explain := line.level = .explain
  dump := line.level = .dump
  input := file? line.after
  output := value? .output line.after
  exportType := value? .exportType line.after
  format := .json

namespace Given

variable {g g' : Given} {level : Level}

/-! ## Two dashes -/

end Given

section LineFrom

open Given

variable {g : Given} {level : Level} {command : String} {rest : List String}

end LineFrom

/-! ## Options -/

@[simp] theorem verbosity_eq_zero {rs : List Request} :
    verbosity rs = 0 ↔ .raise .verbose ∉ rs := by
  rw [verbosity, ← List.count_eq_zero]
  omega

section Hidden

variable {level : Level} (hidden : ¬level.Offers (.setting .output))

include hidden

end Hidden

end Unsugar.CommandLine
