import Inflection.Json.Value

/-!
The range of numbers. A number that is not a small integer is read as a
double-precision approximation: digits are collected as long as they make a
64-bit integer, that integer is rounded to 53 bits, and it is multiplied by a
power of ten that is rounded likewise. Numbers whose product lies beyond the
greatest double are refused.
-/

namespace Inflection.Json.Number

/-- Digits collected as an integer, and the power of ten to multiply it by. -/
structure Scaled where
  significand : Nat := 0
  exponent : Int := 0

namespace Scaled

def extend (s : Scaled) (digit : Char) : Nat :=
  10 * s.significand + (digit.toNat - '0'.toNat)

/-- Adds the digits before the point. After the first digit that does not fit,
each counts as a power of ten only. -/
def addInteger (s : Scaled) : List Char → Scaled
  | [] => s
  | c :: digits =>
    if s.extend c < UInt64.size then addInteger { s with significand := s.extend c } digits
    else { s with exponent := (digits.length + 1 : Nat) }

/-- Adds the digits after the point, up to the first that does not fit. -/
def addFraction (s : Scaled) : List Char → Scaled
  | [] => s
  | c :: digits =>
    if s.extend c < UInt64.size then
      addFraction { significand := s.extend c, exponent := s.exponent - 1 } digits
    else s

end Scaled

/-- The approximation from which a number is computed. -/
def scaled (number : Number) : Scaled :=
  let integer := Scaled.addInteger {} number.digits
  let whole := Scaled.addFraction integer (number.fraction.getD [])
  match number.exponent with
  | none => whole
  | some (negative, digits) =>
    let shift : Int := ofDigits digits
    { whole with exponent := if negative then whole.exponent - shift else whole.exponent + shift }

/-- The nearest number with at most 53 significant bits; a tie goes to the one
whose last bit is zero. -/
def roundTo53Bits (n : Nat) : Nat :=
  let excess := n.log2 - 52
  let unit := Nat.pow 2 excess
  let quotient := n / unit
  let doubled := 2 * (n % unit)
  if doubled < unit ∨ (doubled = unit ∧ quotient % 2 = 0) then quotient * unit
  else (quotient + 1) * unit

/-- Whether the approximation lies within the doubles. -/
def inRange (number : Number) : Bool :=
  let s := number.scaled
  if s.significand = 0 ∨ s.exponent ≤ 0 then true
  else if 308 < s.exponent then false
  else
    let product := roundTo53Bits s.significand * roundTo53Bits (Nat.pow 10 s.exponent.toNat)
    product < Nat.pow 2 1024 - Nat.pow 2 970

end Inflection.Json.Number
