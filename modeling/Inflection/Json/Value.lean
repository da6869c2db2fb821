/-!
JSON values. Numbers keep their digits, since only the digits tell whether a
number is an integer. A string is missing its text if it was written with half
of a surrogate pair: such a string is well formed JSON but no text.
-/

namespace Inflection.Json

/-- A number as it is written. -/
structure Number where
  negative : Bool := false
  digits : List Char
  fraction : Option (List Char) := none
  /-- The exponent, with whether it is negative. -/
  exponent : Option (Bool × List Char) := none
deriving DecidableEq, Repr

inductive Value where
  | null
  | bool (value : Bool)
  | number (value : Number)
  | string (text : Option String)
  | array (elements : List Value)
  | object (members : List (Option String × Value))

namespace Number

/-- The number that decimal digits write. -/
def ofDigits (digits : List Char) : Nat :=
  digits.foldl (fun n c => 10 * n + (c.toNat - '0'.toNat)) 0

def ofNat (n : Nat) : Number := { digits := Nat.toDigits 10 n }

/-- The natural number, if it is written as one. -/
def toNat? (number : Number) : Option Nat :=
  if !number.negative && number.fraction.isNone && number.exponent.isNone then
    some (ofDigits number.digits)
  else none

end Number

end Inflection.Json
