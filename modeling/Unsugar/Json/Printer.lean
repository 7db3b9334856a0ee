import Unsugar.Json.Basic
import Unsugar.Decimal.Style

/-!
# JSON text

A value is written on one line without blanks, or spread over lines with two blanks for every level.
Inside strings only the quote, the backslash and the controls below the blank are escaped.
-/

namespace Unsugar.Json

/-- A character inside a JSON string. -/
def stringChar (c : Char) : List Char :=
  match c with
  | '"' => ['\\', '"']
  | '\\' => ['\\', '\\']
  | '\x08' => ['\\', 'b']
  | '\x0c' => ['\\', 'f']
  | '\n' => ['\\', 'n']
  | '\r' => ['\\', 'r']
  | '\t' => ['\\', 't']
  | c =>
      if c.toNat < 0x10 then "\\u000".toList ++ Nat.toDigits 16 c.toNat
      else if c.toNat < 0x20 then "\\u00".toList ++ Nat.toDigits 16 c.toNat
      else [c]

def stringText (s : String) : List Char :=
  '"' :: s.toList.flatMap stringChar ++ ['"']

def intText (n : Int) : List Char :=
  (if n < 0 then ['-'] else []) ++ Nat.toDigits 10 n.natAbs

def nullText : List Char := ['n', 'u', 'l', 'l']

def floatText (x : Float) : List Char :=
  if x.isFinite then (Decimal.Style.json.write x).toList else nullText

def boolText (b : Bool) : List Char := if b then ['t', 'r', 'u', 'e'] else ['f', 'a', 'l', 's', 'e']

/-! ## On one line -/

mutual

def compactChars : Json → List Char
  | .null => nullText
  | .bool b => boolText b
  | .int n => intText n.val
  | .float x => floatText x
  | .str s => stringText s
  | .arr items => '[' :: compactItems items ++ [']']
  | .obj members => '{' :: compactMembers members ++ ['}']

def compactItems : List Json → List Char
  | [] => []
  | [v] => compactChars v
  | v :: rest => compactChars v ++ ',' :: compactItems rest

def compactMembers : List (String × Json) → List Char
  | [] => []
  | [(k, v)] => stringText k ++ ':' :: compactChars v
  | (k, v) :: rest => stringText k ++ ':' :: compactChars v ++ ',' :: compactMembers rest

end

/-- The value on one line. -/
def compact (v : Json) : String := String.ofList (compactChars v)

/-! ## Over lines -/

/-- A line feed and the blanks of a level. -/
def newLine (level : Nat) : List Char := '\n' :: List.replicate (2 * level) ' '

mutual

def indentedChars (level : Nat) : Json → List Char
  | .null => nullText
  | .bool b => boolText b
  | .int n => intText n.val
  | .float x => floatText x
  | .str s => stringText s
  | .arr [] => ['[', ']']
  | .arr items => '[' :: indentedItems (level + 1) items ++ newLine level ++ [']']
  | .obj [] => ['{', '}']
  | .obj members => '{' :: indentedMembers (level + 1) members ++ newLine level ++ ['}']

def indentedItems (level : Nat) : List Json → List Char
  | [] => []
  | [v] => newLine level ++ indentedChars level v
  | v :: rest => newLine level ++ indentedChars level v ++ ',' :: indentedItems level rest

def indentedMembers (level : Nat) : List (String × Json) → List Char
  | [] => []
  | [(k, v)] => newLine level ++ stringText k ++ ':' :: ' ' :: indentedChars level v
  | (k, v) :: rest =>
      newLine level ++ stringText k ++ ':' :: ' ' :: indentedChars level v
        ++ ',' :: indentedMembers level rest

end

/-- The value over lines. -/
def indented (v : Json) : String := String.ofList (indentedChars 0 v)

end Unsugar.Json
