import Unsugar.Text.WidthClasses

/-!
# Terminal columns

How many columns a terminal gives a character when markers are set below a line of text. The classes
decide for nearly all characters; the exceptions are those whose glyph is known to be as wide as the
sequence it stands for.
-/

namespace Unsugar.Text

/-- Controls, which are not shown. -/
def isControl (c : Char) : Bool := c.toNat < 0x20 || (0x7F ≤ c.toNat && c.toNat < 0xA0)

/-- Characters that are as wide as what they abbreviate: a Khmer vowel on its carrier, and a Khmer
"and so on" of three signs. -/
def abbreviationColumns? (c : Char) : Option Nat :=
  if c = '\u17A4' then some 2 else if c = '\u17D8' then some 3 else none

/-- The columns of one character; a tab is laid out by its line and not here. -/
def columns (c : Char) : Nat :=
  if isControl c then 0
  else
    match abbreviationColumns? c with
    | some n => n
    | none => if columnless.mem c then 0 else if wide.mem c then 2 else 1

end Unsugar.Text
