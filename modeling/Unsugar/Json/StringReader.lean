import Unsugar.Json.Fault

/-!
# Reading JSON strings

Characters stand for themselves or are given by an escape; a character outside the basic plane may be
given by the two halves of a surrogate pair, but half a pair gives none.
-/

namespace Unsugar.Json

def hexValue? (c : Char) : Option Nat :=
  if '0' ≤ c ∧ c ≤ '9' then some (c.toNat - '0'.toNat)
  else if 'a' ≤ c ∧ c ≤ 'f' then some (c.toNat - 'a'.toNat + 10)
  else if 'A' ≤ c ∧ c ≤ 'F' then some (c.toNat - 'A'.toNat + 10)
  else none

/-- Four hexadecimal digits. Four bytes are taken before they are looked at. -/
def fourHex : Reader Nat
  | a :: b :: c :: d :: rest =>
      match hexValue? a, hexValue? b, hexValue? c, hexValue? d with
      | some a', some b', some c', some d' =>
          .ok ⟨((a' * 16 + b') * 16 + c') * 16 + d', rest, by simp; omega⟩
      | _, _, _, _ => .error ⟨.badEscape, Text.byteLength (a :: b :: c :: d :: rest) - 4⟩
  | cs =>
      if Text.byteLength cs < 4 then .error ⟨.eofInString, 0⟩
      else .error ⟨.badEscape, Text.byteLength cs - 4⟩

/-- The second half of a surrogate pair, of which `high` is the first. -/
def lowSurrogate (high : Nat) : Reader Char
  | '\\' :: 'u' :: rest => do
      let ⟨low, rest', h⟩ ← fourHex rest
      if 0xDC00 ≤ low ∧ low ≤ 0xDFFF then
        .ok ⟨Char.ofNat ((high - 0xD800) * 1024 + (low - 0xDC00) + 0x10000), rest',
          by simp; omega⟩
      else .error (faultBefore .loneSurrogate rest')
  | ['\\'] | [] => .error ⟨.eofInString, 0⟩
  | '\\' :: rest => .error (faultAt .brokenPair rest)
  | cs => .error (faultAt .brokenPair cs)

/-- A character given by its code unit, or by two that form a surrogate pair. -/
def codeUnit : Reader Char := fun cs => do
  let ⟨n, rest, h⟩ ← fourHex cs
  if 0xDC00 ≤ n ∧ n ≤ 0xDFFF then .error (faultBefore .loneSurrogate rest)
  else if 0xD800 ≤ n ∧ n ≤ 0xDBFF then
    let ⟨c, rest', h'⟩ ← lowSurrogate n rest
    .ok ⟨c, rest', Nat.lt_trans h' h⟩
  else .ok ⟨Char.ofNat n, rest, h⟩

/-- The character a letter stands for after a backslash. -/
def letterEscape? : Char → Option Char
  | '"' => some '"'
  | '\\' => some '\\'
  | '/' => some '/'
  | 'b' => some '\x08'
  | 'f' => some '\x0c'
  | 'n' => some '\n'
  | 'r' => some '\r'
  | 't' => some '\t'
  | _ => none

/-- What follows a backslash. -/
def escape : Reader Char
  | [] => .error ⟨.eofInString, 0⟩
  | 'u' :: rest => return (← codeUnit rest).after 'u'
  | c :: rest =>
      match letterEscape? c with
      | some x => .ok ⟨x, rest, Nat.lt_succ_self _⟩
      | none => .error (faultAt .badEscape (c :: rest))

/-- The characters of a string up to its closing quote, which is taken. -/
def stringBody (cs : List Char) : Except Failure (Step (List Char) cs) :=
  match cs with
  | [] => .error ⟨.eofInString, 0⟩
  | c :: rest =>
      if c = '"' then .ok ⟨[], rest, Nat.lt_succ_self _⟩
      else if c = '\\' then do
        let ⟨x, rest', h⟩ ← escape rest
        let ⟨xs, rest'', h'⟩ ← stringBody rest'
        .ok ⟨x :: xs, rest'', Nat.lt_succ_of_lt (Nat.lt_trans h' h)⟩
      else if c.toNat < 0x20 then .error (faultAt .rawControl (c :: rest))
      else do
        let ⟨xs, rest', h⟩ ← stringBody rest
        .ok ⟨c :: xs, rest', Nat.lt_succ_of_lt h⟩
termination_by cs.length
decreasing_by
  · exact Nat.lt_succ_of_lt h
  · exact Nat.lt_succ_self _

end Unsugar.Json
