/-!
# Lines of a text

Positions in a text are byte offsets; a line starts at offset 0 and after every line feed. A line
and a column are another way to write an offset: the column counts bytes from the start of the line.
-/

namespace Unsugar.Text

/-- The length of characters in bytes. -/
def byteLength : List Char → Nat
  | [] => 0
  | c :: rest => c.utf8Size + byteLength rest

/-- The starts of the lines after the first, for characters that begin at `offset`. -/
def laterLineStarts (offset : Nat) : List Char → List Nat
  | [] => []
  | c :: rest =>
      let next := offset + c.utf8Size
      if c = '\n' then next :: laterLineStarts next rest else laterLineStarts next rest

/-- The offsets at which the lines of a text start, in order. -/
def lineStarts (s : String) : List Nat := 0 :: laterLineStarts 0 s.toList

/-- The line that holds an offset, counted from zero: the last one that starts at or before it. -/
def lineIndex (s : String) (offset : Nat) : Nat :=
  ((lineStarts s).takeWhile (· ≤ offset)).length - 1

/-- The start of a line counted from zero. -/
def lineStart? (s : String) (index : Nat) : Option Nat := (lineStarts s)[index]?

/-- The offsets of a line counted from zero: from its start to the start of the next line or the end
of the text. -/
def lineRange? (s : String) (index : Nat) : Option (Nat × Nat) :=
  (lineStart? s index).map fun start => (start, (lineStart? s (index + 1)).getD s.utf8ByteSize)

/-- A place in a text: the line counts from one, the column counts the bytes before it in the line. -/
structure Position where
  line : Nat
  column : Nat
deriving DecidableEq, Repr

/-- The place of an offset. -/
def position (s : String) (offset : Nat) : Position :=
  let index := lineIndex s offset
  ⟨index + 1, offset - (lineStart? s index).getD 0⟩

/-- The characters of a text that lie wholly between two offsets; `at` is the offset of the first
character given. -/
def slice (low high at_ : Nat) : List Char → List Char
  | [] => []
  | c :: rest =>
      let next := at_ + c.utf8Size
      if low ≤ at_ ∧ next ≤ high then c :: slice low high next rest else slice low high next rest

/-- The pieces of a text between line feeds; never empty, as a text without one is a single piece. -/
def pieces : List Char → List (List Char)
  | [] => [[]]
  | c :: rest =>
      match pieces rest with
      | [] => [[c]]
      | piece :: later => if c = '\n' then [] :: piece :: later else (c :: piece) :: later

/-- A line without the carriage return that ends it. -/
def dropReturn (line : List Char) : List Char :=
  if line.getLast? = some '\r' then line.dropLast else line

/-- The lines of a note. A line ends at a line feed or at a carriage return and a line feed; what
follows the last line feed is a line only if it is not empty. -/
def noteLines (s : String) : List String :=
  let ps := pieces s.toList
  let ended := ps.dropLast.map dropReturn
  let last := (ps.getLast?.filter (· ≠ [])).toList
  (ended ++ last).map String.ofList

end Unsugar.Text
