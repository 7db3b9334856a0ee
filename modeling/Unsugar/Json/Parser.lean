import Unsugar.Json.StringReader
import Unsugar.Json.NumberReader
import Unsugar.Text.Lines

/-!
# JSON values from text

A value is read with two readers for what stands in brackets. The readers of depth zero refuse every
bracket; those of the next depth read their items with the values of the depth before. A text may
open 127 brackets inside each other.
-/

namespace Unsugar.Json

/-- A string, its opening quote included. -/
def string : Reader String := fun cs =>
  match cs with
  | '"' :: rest => return ((← stringBody rest).map String.ofList).after '"'
  | cs => .error (faultAt .keyNotString cs)

/-- A word of which the first letter has been seen. -/
def word (letters : List Char) (v : Json) : Reader Json := fun cs =>
  match cs with
  | [] => .error ⟨.eofInValue, 0⟩
  | _ :: rest =>
      match h : afterWord letters rest with
      | .ok rest' =>
          .ok ⟨v, rest', Nat.lt_succ_of_le (length_afterWord_le h)⟩
      | .error failure => .error failure

/-- A number, with its sign. -/
def number : Reader Json := fun cs =>
  match cs with
  | '-' :: rest =>
      match h : unsignedNumber true rest with
      | .ok (v, rest') =>
          .ok ⟨v, rest', Nat.lt_succ_of_lt (length_unsignedNumber_lt h)⟩
      | .error failure => .error failure
  | cs =>
      match h : unsignedNumber false cs with
      | .ok (v, rest) => .ok ⟨v, rest, length_unsignedNumber_lt h⟩
      | .error failure => .error failure

/-- A value after blanks, with the given readers for lists and objects. Both are called at the opening
bracket. -/
def valueWith (list object : Reader Json) : Reader Json := fun cs =>
  match h : skipBlanks cs with
  | [] => .error ⟨.eofInValue, 0⟩
  | c :: rest => do
      let ⟨v, rest', h'⟩ ← (
        if c = '"' then do
          let ⟨s, rest', h'⟩ ← string (c :: rest)
          .ok ⟨.str s, rest', h'⟩
        else if c = '[' then list (c :: rest)
        else if c = '{' then object (c :: rest)
        else if c = 'n' then word ['u', 'l', 'l'] .null (c :: rest)
        else if c = 't' then word ['r', 'u', 'e'] (.bool true) (c :: rest)
        else if c = 'f' then word ['a', 'l', 's', 'e'] (.bool false) (c :: rest)
        else if c = '-' || isDigit c then number (c :: rest)
        else .error (faultAt .expectedValue (c :: rest)) : Except Failure (Step Json (c :: rest)))
      .ok ⟨v, rest', Nat.lt_of_le_of_lt (Nat.le_of_lt_succ h') (length_lt_of_skipBlanks h)⟩

/-- The items of a list from the first one on, with the closing bracket. -/
def itemsFrom (item : Reader Json) (cs : List Char) : Except Failure (Step (List Json) cs) := do
  let ⟨v, rest, h⟩ ← item cs
  match hb : skipBlanks rest with
  | [] => .error ⟨.eofInList, 0⟩
  | ']' :: rest' =>
      .ok ⟨[v], rest', Nat.lt_trans (length_lt_of_skipBlanks hb) h⟩
  | ',' :: rest' =>
      match skipBlanks rest' with
      | [] => .error ⟨.eofInValue, 0⟩
      | ']' :: rest'' => .error (faultAt .trailingComma (']' :: rest''))
      | _ =>
          have shorter : rest'.length < cs.length := Nat.lt_trans (length_lt_of_skipBlanks hb) h
          let ⟨vs, rest'', h'⟩ ← itemsFrom item rest'
          .ok ⟨v :: vs, rest'', Nat.lt_trans h' shorter⟩
  | rest' => .error (faultAt .expectedListEnd rest')
termination_by cs.length
decreasing_by exact shorter

/-- A list. -/
def listOf (item : Reader Json) : Reader Json
  | [] => .error ⟨.eofInList, 0⟩
  | c :: cs =>
      match h : skipBlanks cs with
      | [] => .error ⟨.eofInList, 0⟩
      | ']' :: rest => .ok (Step.after c ⟨.arr [], rest, length_lt_of_skipBlanks h⟩)
      | _ => return ((← itemsFrom item cs).map .arr).after c

/-- A member of an object after blanks: a key, a colon and a value. -/
def member (item : Reader Json) : Reader (String × Json) := fun cs => do
  let ⟨k, rest, h⟩ ← string (skipBlanks cs)
  match hb : skipBlanks rest with
  | [] => .error ⟨.eofInObject, 0⟩
  | ':' :: rest' =>
      let ⟨v, rest'', h'⟩ ← item rest'
      .ok ⟨(k, v), rest'',
        Nat.lt_of_lt_of_le (Nat.lt_trans h' (Nat.lt_trans (length_lt_of_skipBlanks hb) h))
          (length_skipBlanks_le cs)⟩
  | rest' => .error (faultAt .expectedColon rest')

/-- The members of an object from the first one on, with the closing brace. -/
def membersFrom (item : Reader Json) (cs : List Char) :
    Except Failure (Step (List (String × Json)) cs) := do
  let ⟨m, rest, h⟩ ← member item cs
  match hb : skipBlanks rest with
  | [] => .error ⟨.eofInObject, 0⟩
  | '}' :: rest' =>
      .ok ⟨[m], rest', Nat.lt_trans (length_lt_of_skipBlanks hb) h⟩
  | ',' :: rest' =>
      match skipBlanks rest' with
      | [] => .error ⟨.eofInValue, 0⟩
      | '}' :: rest'' => .error (faultAt .trailingComma ('}' :: rest''))
      | _ =>
          have shorter : rest'.length < cs.length := Nat.lt_trans (length_lt_of_skipBlanks hb) h
          let ⟨ms, rest'', h'⟩ ← membersFrom item rest'
          .ok ⟨m :: ms, rest'', Nat.lt_trans h' shorter⟩
  | rest' => .error (faultAt .expectedObjectEnd rest')
termination_by cs.length
decreasing_by exact shorter

/-- An object; the last member of a key counts. -/
def objectOf (item : Reader Json) : Reader Json
  | [] => .error ⟨.eofInObject, 0⟩
  | c :: cs =>
      match h : skipBlanks cs with
      | [] => .error ⟨.eofInObject, 0⟩
      | '}' :: rest => .ok (Step.after c ⟨.obj [], rest, length_lt_of_skipBlanks h⟩)
      | _ => return ((← membersFrom item cs).map mkObj).after c

/-- The reader of a bracket that would nest too deep. -/
def refuseBracket : Reader Json := fun cs => .error (faultAt .tooDeep cs)

/-- A value with at most `depth` brackets open at a time. -/
def value : Nat → Reader Json
  | 0 => valueWith refuseBracket refuseBracket
  | depth + 1 => valueWith (listOf (value depth)) (objectOf (value depth))

/-- The number of brackets that may be open at a time. -/
def maxDepth : Nat := 127

/-- Why a text is no JSON value, and where. -/
structure TextError where
  fault : Fault
  position : Text.Position
deriving DecidableEq, Repr

def TextError.message (e : TextError) : String :=
  s!"{e.fault.message} at line {e.position.line} column {e.position.column}"

/-- A value and nothing but blanks after it. -/
def wholeText (cs : List Char) : Except Failure Json := do
  let ⟨v, rest, _⟩ ← value maxDepth cs
  match skipBlanks rest with
  | [] => .ok v
  | rest => .error (faultAt .trailingText rest)

/-- The value a text denotes. -/
def parse (text : String) : Except TextError Json :=
  match wholeText text.toList with
  | .ok v => .ok v
  | .error failure =>
      .error ⟨failure.fault, Text.position text (text.utf8ByteSize - failure.unread)⟩

end Unsugar.Json
