import Unsugar.Text.Lines
import Unsugar.Text.Columns

/-!
# Diagnostics

What the user is told about a failure: a message, notes, and perhaps a label at a place in a source. A
label shows the line it is on, with a marker below it and the place in front:

```text
  ┌─ name:line:column
  │
n │ the line
  │   ^ message
  │
  = a note
```

The bars stand as far to the right as the line number needs.
-/

namespace Unsugar

/-- A text with the name it is reported under. -/
structure Source where
  name : String
  text : String
deriving DecidableEq, Repr

inductive Severity where
  | error
  /-- A failure of the tool and not of what it was given. -/
  | bug
deriving DecidableEq, Repr

def Severity.text : Severity → String
  | error => "error"
  | bug => "bug"

/-- A message about the bytes from `start` to before `stop` of a source, given by its number. -/
structure Label where
  source : Nat
  start : Nat
  stop : Nat
  message : String
deriving DecidableEq, Repr

structure Diagnostic where
  severity : Severity
  message : String
  notes : List String
  labels : List Label
deriving DecidableEq, Repr

namespace Diagnostic

/-! ## A line and its marker -/

/-- A character of a line: its offset and length in bytes, and the columns it takes. -/
structure Cell where
  char : Char
  offset : Nat
  size : Nat
  columns : Nat

def tabStop : Nat := 4

/-- The characters of a line from an offset and a column on; a tab runs to the next tab stop. -/
def cells (offset column : Nat) : List Char → List Cell
  | [] => []
  | c :: rest =>
      let width := if c = '\t' then tabStop - column % tabStop else Text.columns c
      ⟨c, offset, c.utf8Size, width⟩ :: cells (offset + c.utf8Size) (column + width) rest

/-- How a character is shown: tabs as blanks. -/
def Cell.shown (cell : Cell) : List Char :=
  if cell.char = '\t' then List.replicate cell.columns ' ' else [cell.char]

/-- What stands below a character: the marker if the label covers it, else blanks up to the label's
end. -/
def Cell.marker (start stop : Nat) (cell : Cell) : List Char :=
  if max start cell.offset < min stop (cell.offset + cell.size) then
    List.replicate cell.columns '^'
  else if cell.offset < stop then List.replicate cell.columns ' '
  else []

/-- A line without the line feeds, carriage returns and NULs that end it. -/
def trimmed (line : List Char) : List Char :=
  (line.reverse.dropWhile fun c => c = '\n' || c = '\r' || c = '\x00').reverse

/-- The marker line below a line, for a label between two offsets in it. A label covers at least one
byte, and one at the end of the line is marked behind its last character. -/
def markerLine (line : List Char) (start stop : Nat) : List Char :=
  let cs := cells 0 0 line
  let ending : Cell := ⟨' ', Text.byteLength line, 1, 1⟩
  (cs ++ [ending]).flatMap (Cell.marker start (max stop (start + 1)))

/-- The lines of a label, and the padding before their bars. -/
def snippet (source : Source) (label : Label) : Nat × List String :=
  let index := Text.lineIndex source.text label.start
  let (low, high) := (Text.lineRange? source.text index).getD (0, 0)
  let chars := Text.slice low high 0 source.text.toList
  let column := (Text.slice low label.start 0 source.text.toList).length + 1
  let line := trimmed chars
  let number := toString (index + 1)
  let pad := "".pushn ' ' number.length
  let shown := String.ofList ((cells 0 0 line).flatMap Cell.shown)
  let marker := String.ofList (markerLine line (label.start - low) (label.stop - low))
  (number.length,
    [ s!"{pad} ┌─ {source.name}:{index + 1}:{column}",
      s!"{pad} │",
      s!"{number} │ {shown}",
      s!"{pad} │ {marker} {label.message}",
      s!"{pad} │" ])

/-! ## The whole text -/

/-- The lines of a note: the first after an equals sign, the others below it. -/
def noteLines (pad : Nat) (note : String) : List String :=
  let blanks := "".pushn ' ' pad
  match Text.noteLines note with
  | [] => []
  | first :: rest => s!"{blanks} = {first}" :: rest.map fun line => s!"{blanks}   {line}"

/-- The text of a diagnostic; labels in unknown sources are left out. A blank line ends it. -/
def render (sources : List Source) (d : Diagnostic) : String :=
  let snippets := d.labels.filterMap fun label =>
    sources[label.source]?.map fun source => snippet source label
  let pad := (snippets.map (·.1)).foldl max 0
  let lines :=
    s!"{d.severity.text}: {d.message}" :: snippets.flatMap (·.2) ++ d.notes.flatMap (noteLines pad)
      ++ [""]
  String.join (lines.map (· ++ "\n"))

end Diagnostic

end Unsugar
