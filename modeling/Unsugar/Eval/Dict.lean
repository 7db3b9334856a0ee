import Unsugar.Eval.Value

/-!
# Dictionaries

The ordered dictionary behind the container calls: a map from atoms to values, in which a later store
of a key replaces an earlier one.
-/

namespace Unsugar

/-- A dictionary; its entries ascend strictly by key. -/
abbrev Dict := List (String × Value)

namespace Dict

def new : Dict := []

/-- The dictionary with a key mapped to a value. -/
def store (key : String) (value : Value) (d : Dict) : Dict := Assoc.insert key value d

/-- The value of a key. -/
def fetch? (key : String) (d : Dict) : Option Value := d.lookup key

end Dict

end Unsugar
