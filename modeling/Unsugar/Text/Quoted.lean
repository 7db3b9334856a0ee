import Unsugar.Text.Printable
import Unsugar.Text.Extending

/-!
# Quoted text

Two ways to write characters so that every one of them can be seen: text between double quotes,
where all printable characters stand for themselves, and a single character, where only printable
ASCII does. What cannot stand for itself is written as a backslash escape.
-/

namespace Unsugar.Text

/-- A character by its code point, in lower-case hexadecimal without leading zeros. -/
def codeEscape (c : Char) : List Char :=
  ['\\', 'u', '{'] ++ Nat.toDigits 16 c.toNat ++ ['}']

/-- The halfwidth voiced and semi-voiced sound marks, which extend a syllable but stand beside it. -/
def isHalfwidthSoundMark (c : Char) : Bool := c = '\uFF9E' || c = '\uFF9F'

/-- The fillers of Hangul syllables and the blank letters made of them. -/
def isHangulFiller (c : Char) : Bool :=
  c = '\u115F' || c = '\u1160' || c = '\u3164' || c = '\uFFA0'

/-- Whether a character beyond ASCII is escaped between double quotes: if it has no glyph, is blank, or
would combine with the character before it. -/
def isEscaped (c : Char) : Bool :=
  unprintable.mem c || isHangulFiller c || (extending.mem c && !isHalfwidthSoundMark c)

/-- A character inside double quotes. -/
def quotedChar (c : Char) : List Char :=
  match c with
  | '"' => ['\\', '"']
  | '\\' => ['\\', '\\']
  | '\t' => ['\\', 't']
  | '\r' => ['\\', 'r']
  | '\n' => ['\\', 'n']
  | '\x00' => ['\\', '0']
  | c =>
      if c.toNat < 0x7F then if c.toNat < 0x20 then codeEscape c else [c]
      else if isEscaped c then codeEscape c
      else [c]

/-- Text between double quotes. -/
def quoted (s : String) : String :=
  String.ofList ('"' :: s.toList.flatMap quotedChar ++ ['"'])

/-- A character in ASCII, both quotes escaped. -/
def asciiChar (c : Char) : List Char :=
  match c with
  | '\t' => ['\\', 't']
  | '\r' => ['\\', 'r']
  | '\n' => ['\\', 'n']
  | '\'' => ['\\', '\'']
  | '"' => ['\\', '"']
  | '\\' => ['\\', '\\']
  | c => if 0x20 ≤ c.toNat ∧ c.toNat ≤ 0x7E then [c] else codeEscape c

end Unsugar.Text
