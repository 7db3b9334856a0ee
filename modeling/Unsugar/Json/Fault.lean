import Unsugar.Json.Basic
import Unsugar.Text.Lines

/-!
# Readers of JSON text

The reader works on the characters that are left. What it cannot accept is reported as a fault with
the number of bytes unread at that point, from which the place in the text follows. Two conventions
fix that number: a fault about a character not yet taken counts its first byte as read, a fault found
after taking characters counts what was taken.

Every reader of a part of the text returns a rest that is shorter than what it was given, which is
what ends the loops over list elements and object members. Nesting is bounded by a number that each
bracket lowers.
-/

namespace Unsugar.Json

/-- What can be wrong with JSON text. -/
inductive Fault where
  | eofInValue | eofInList | eofInObject | eofInString
  | expectedValue | expectedWord
  | expectedListEnd | expectedObjectEnd | expectedColon
  | trailingComma | keyNotString
  | tooDeep | trailingText
  | rawControl | badEscape | loneSurrogate | brokenPair
  | badNumber | numberTooLarge
deriving DecidableEq, Repr

def Fault.message : Fault → String
  | .eofInValue => "EOF while parsing a value"
  | .eofInList => "EOF while parsing a list"
  | .eofInObject => "EOF while parsing an object"
  | .eofInString => "EOF while parsing a string"
  | .expectedValue => "expected value"
  | .expectedWord => "expected ident"
  | .expectedListEnd => "expected `,` or `]`"
  | .expectedObjectEnd => "expected `,` or `\x7d`"
  | .expectedColon => "expected `:`"
  | .trailingComma => "trailing comma"
  | .keyNotString => "key must be a string"
  | .tooDeep => "recursion limit exceeded"
  | .trailingText => "trailing characters"
  | .rawControl => "control character (\\u0000-\\u001F) found while parsing a string"
  | .badEscape => "invalid escape"
  | .loneSurrogate => "lone leading surrogate in hex escape"
  | .brokenPair => "unexpected end of hex escape"
  | .badNumber => "invalid number"
  | .numberTooLarge => "number out of range"

/-- A fault and the number of bytes unread where it is reported. -/
structure Failure where
  fault : Fault
  unread : Nat
deriving DecidableEq, Repr

/-- A fault about the first character, of which one byte counts as read. -/
def faultAt (fault : Fault) (cs : List Char) : Failure := ⟨fault, Text.byteLength cs - 1⟩

/-- A fault found once only `cs` is left. -/
def faultBefore (fault : Fault) (cs : List Char) : Failure := ⟨fault, Text.byteLength cs⟩

/-- A part read from the front of `cs` and what is left after it. -/
structure Step (α : Type) (cs : List Char) where
  value : α
  rest : List Char
  shorter : rest.length < cs.length

namespace Step

/-- The step with its value changed. -/
def map {α β : Type} {cs : List Char} (f : α → β) (s : Step α cs) : Step β cs :=
  ⟨f s.value, s.rest, s.shorter⟩

/-- The step as one that took a character before. -/
def after {α : Type} {cs : List Char} (c : Char) (s : Step α cs) : Step α (c :: cs) :=
  ⟨s.value, s.rest, Nat.lt_succ_of_lt s.shorter⟩

end Step

/-- A reader of a part of the text. -/
abbrev Reader (α : Type) := (cs : List Char) → Except Failure (Step α cs)

/-! ## Blanks and words -/

def isBlank (c : Char) : Bool := c = ' ' || c = '\n' || c = '\t' || c = '\r'

def skipBlanks (cs : List Char) : List Char := cs.dropWhile isBlank

theorem length_skipBlanks_le (cs : List Char) : (skipBlanks cs).length ≤ cs.length :=
  (List.dropWhile_suffix isBlank).length_le

/-- What follows the first character after blanks is shorter. -/
theorem length_lt_of_skipBlanks {cs rest : List Char} {c : Char} (h : skipBlanks cs = c :: rest) :
    rest.length < cs.length := by
  have le := length_skipBlanks_le cs
  rw [h] at le
  exact le

/-- What follows a word; a character that differs is reported after it is taken. -/
def afterWord : List Char → List Char → Except Failure (List Char)
  | [], cs => .ok cs
  | _ :: _, [] => .error ⟨.eofInValue, 0⟩
  | w :: word, c :: cs =>
      if w = c then afterWord word cs else .error (faultAt .expectedWord (c :: cs))

theorem length_afterWord_le {word cs rest : List Char} (h : afterWord word cs = .ok rest) :
    rest.length ≤ cs.length := by
  induction word generalizing cs with
  | nil => simp only [afterWord, Except.ok.injEq] at h; subst h; exact Nat.le_refl _
  | cons w word ih =>
      cases cs with
      | nil => simp [afterWord] at h
      | cons c cs =>
          simp only [afterWord] at h
          split at h
          · exact Nat.le_succ_of_le (ih h)
          · simp at h

end Unsugar.Json
