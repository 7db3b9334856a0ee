import Unsugar.Assoc
import Unsugar.Text.Quoted
import Unsugar.Decimal.Style

/-!
# Values at run time

A dictionary is an association list sorted by key, which is also the order in which it is shown.
Values are nested in the lists that dictionaries are, and a constructor cannot hold a proof about the
keys of a list it nests; the order is an invariant that evaluation keeps.
-/

namespace Unsugar

inductive Value where
  | atom (name : String)
  | integer (value : Int64)
  | float (value : Float)
  | str (value : String)
  | tuple (items : List Value)
  | list (items : List Value)
  | dict (entries : List (String × Value))

namespace Value

mutual

/-- The equality a match tests. Integers and floats differ, and floats compare as numbers: the two
zeros are equal and no value without a number equals itself. -/
def same : Value → Value → Bool
  | atom a, atom b => a = b
  | integer a, integer b => a = b
  | float a, float b => a == b
  | str a, str b => a = b
  | tuple as, tuple bs => sameItems as bs
  | list as, list bs => sameItems as bs
  | dict as, dict bs => sameEntries as bs
  | _, _ => false

def sameItems : List Value → List Value → Bool
  | [], [] => true
  | a :: as, b :: bs => same a b && sameItems as bs
  | _, _ => false

def sameEntries : List (String × Value) → List (String × Value) → Bool
  | [], [] => true
  | (k, a) :: as, (k', b) :: bs => k = k' && same a b && sameEntries as bs
  | _, _ => false

end

mutual

def chars : Value → List Char
  | atom name => name.toList
  | integer n => (toString n).toList
  | float x => (Decimal.Style.term.write x).toList
  | str s => (Text.quoted s).toList
  | tuple items => '{' :: itemsChars items ++ ['}']
  | list items => '[' :: itemsChars items ++ [']']
  | dict entries => '[' :: entriesChars entries ++ [']']

def itemsChars : List Value → List Char
  | [] => []
  | [v] => chars v
  | v :: rest => chars v ++ ',' :: itemsChars rest

/-- Entries are shown as pairs. -/
def entriesChars : List (String × Value) → List Char
  | [] => []
  | [(k, v)] => '{' :: k.toList ++ ',' :: chars v ++ ['}']
  | (k, v) :: rest => '{' :: k.toList ++ ',' :: chars v ++ '}' :: ',' :: entriesChars rest

end

/-- How a value is shown. -/
def text (v : Value) : String := String.ofList v.chars

end Value

end Unsugar
