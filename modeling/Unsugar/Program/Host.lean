/-!
# What a run needs from its surroundings

A run reads one input, writes one output and reports on the side. It asks for these through a record
of operations, so the same run works on a real system and on a simulated one, about which its outcome
can be stated. Failures of writing come back in the system's words.

A run opens its log but the lines of the log are no part of it: they say what the run does, to whoever
looks on, and nothing depends on them.
-/

namespace Unsugar

/-- The operations a run may perform. -/
structure Host (m : Type → Type) where
  /-- Opens the log for lines of a level and the graver ones. -/
  openLog : String → m Unit
  /-- All of standard input, none if it is no text. -/
  readInput : m (Option String)
  /-- All of a file, none if it cannot be read as text. -/
  readFile : String → m (Option String)
  /-- Replaces a file; returns why it could not be. -/
  writeFile : String → String → m (Option String)
  /-- Writes to standard output; returns why it could not. -/
  writeOutput : String → m (Option String)
  /-- Writes to standard error. -/
  report : String → m Unit
  /-- The time in nanoseconds from some fixed point. -/
  clock : m Nat

end Unsugar
