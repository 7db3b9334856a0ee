/-!
# Classes of characters

A class is stored as the code points at which membership switches, which keeps a class with
thousands of members down to a few hundred numbers and makes the test one count.
-/

namespace Unsugar.Text

/-- A class of characters by the code points at which membership switches, in increasing order:
outside before the first, inside from the first to the second, and so on. -/
structure CharClass where
  switches : List Nat

/-- Membership: an odd number of switches lies at or before the character. -/
def CharClass.mem (cls : CharClass) (c : Char) : Bool :=
  (cls.switches.takeWhile (· ≤ c.toNat)).length % 2 == 1

end Unsugar.Text
