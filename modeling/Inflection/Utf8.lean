/-!
Decoding UTF-8. Each character has one encoding, the shortest, and surrogates
have none.
-/

namespace Inflection.Utf8

/-- The beginning of an encoding: its value so far, the number of bytes to come,
and the least value that needs so many bytes. -/
structure Partial where
  value : Nat
  left : Nat
  least : Nat

/-- What the first byte of an encoding of several bytes begins. -/
def Partial.ofLead? (byte : Nat) : Option Partial :=
  if byte / 0x20 = 6 then some ⟨byte % 0x20, 1, 0x80⟩
  else if byte / 0x10 = 14 then some ⟨byte % 0x10, 2, 0x800⟩
  else if byte / 0x08 = 30 then some ⟨byte % 0x08, 3, 0x10000⟩
  else none

/-- Reads bytes after those that encode `decoded`, the last character first, and a
beginning of another if there is one. -/
def decodeFrom (decoded : List Char) : Option Partial → List Nat → Option (List Char)
  | none, [] => some decoded.reverse
  | some _, [] => none
  | none, byte :: bytes =>
    if byte < 0x80 then decodeFrom (Char.ofNat byte :: decoded) none bytes
    else
      match Partial.ofLead? byte with
      | some begun => decodeFrom decoded (some begun) bytes
      | none => none
  | some begun, byte :: bytes =>
    let value := 0x40 * begun.value + byte % 0x40
    if byte / 0x40 ≠ 2 then none
    else if begun.left ≠ 1 then
      decodeFrom decoded (some { begun with value, left := begun.left - 1 }) bytes
    else if begun.least ≤ value ∧ value.isValidChar then
      decodeFrom (Char.ofNat value :: decoded) none bytes
    else none

/-- The characters that some bytes encode. -/
def decode? (bytes : List Nat) : Option (List Char) :=
  decodeFrom [] none bytes

end Inflection.Utf8
