/-!
# Digits
-/

namespace AboutPages.Text

def isHexDigit (c : Char) : Bool :=
  decide (c.isDigit ∨ 'a' ≤ c.toLower ∧ c.toLower ≤ 'f')

/-- The value of a digit in any base up to sixteen. -/
def digitValue (c : Char) : Nat :=
  if c.isDigit then c.toNat - '0'.toNat else c.toLower.toNat - 'a'.toNat + 10

def numeral (base : Nat) (digits : List Char) : Nat :=
  digits.foldl (fun n c => n * base + digitValue c) 0

end AboutPages.Text
