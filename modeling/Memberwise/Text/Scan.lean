/-!
# Reading characters

Small readers over a list of characters. A reader gives what follows the part it accepts, or nothing
if it accepts none.
-/

namespace Memberwise.Text

/-- What follows the given text, if the characters start with it. -/
def after? (text : String) (cs : List Char) : Option (List Char) :=
  if text.toList.isPrefixOf cs then some (cs.drop text.toList.length) else none

/-- The characters start with the given text. -/
def startsWith (text : String) (cs : List Char) : Bool := text.toList.isPrefixOf cs

/-- The first character, if there is one, has the property. -/
def headIs (p : Char → Bool) : List Char → Bool
  | [] => false
  | c :: _ => p c

/-- The part of `cs` before `rest`, which is its end. -/
def before (cs rest : List Char) : List Char := cs.take (cs.length - rest.length)

/-- The value of a digit in bases up to sixteen. -/
def digitValue? (c : Char) : Option Nat :=
  if '0' ≤ c ∧ c ≤ '9' then some (c.toNat - '0'.toNat)
  else if 'a' ≤ c ∧ c ≤ 'f' then some (c.toNat - 'a'.toNat + 10)
  else if 'A' ≤ c ∧ c ≤ 'F' then some (c.toNat - 'A'.toNat + 10)
  else none

end Memberwise.Text
