/-!
Numbers written by hexadecimal digits.
-/

namespace Inflection.Hexadecimal

def digit? (c : Char) : Option Nat :=
  if '0' ≤ c ∧ c ≤ '9' then some (c.toNat - '0'.toNat)
  else if 'a' ≤ c ∧ c ≤ 'f' then some (c.toNat - 'a'.toNat + 10)
  else if 'A' ≤ c ∧ c ≤ 'F' then some (c.toNat - 'A'.toNat + 10)
  else none

/-- The number that the digits write; no digits write zero. -/
def number? (digits : List Char) : Option Nat :=
  digits.foldlM (fun n c => (digit? c).map (16 * n + ·)) 0

/-- The character whose number the digits write. -/
def char? (digits : List Char) : Option Char :=
  (number? digits).bind fun n => if n.isValidChar then some (Char.ofNat n) else none

end Inflection.Hexadecimal
