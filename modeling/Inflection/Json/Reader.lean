import Inflection.Hexadecimal
import Inflection.Json.Value

/-!
Reading JSON text. Each reader takes the text from its place on and gives what
it read and the text after it.
-/

namespace Inflection.Json

namespace Reader

/-- The blanks between the parts of a JSON text. -/
def isBlank (c : Char) : Bool :=
  c = ' ' || c = '\t' || c = '\n' || c = '\r'

def skip (text : List Char) : List Char := text.dropWhile isBlank

/-- The character that a backslash and the given character write. -/
def escaped? (c : Char) : Option Char :=
  match c with
  | '"' => some '"'
  | '\\' => some '\\'
  | '/' => some '/'
  | 'b' => some '\x08'
  | 'f' => some '\x0c'
  | 'n' => some '\n'
  | 'r' => some '\r'
  | 't' => some '\t'
  | _ => none

/-- Reads a string after its opening quote as code units: characters, and
halves of surrogate pairs written by number. -/
def codeUnits : List Char → Option (List Nat × List Char)
  | '"' :: rest => some ([], rest)
  | '\\' :: 'u' :: a :: b :: c :: d :: rest => do
    let unit ← Hexadecimal.number? [a, b, c, d]
    let (units, rest) ← codeUnits rest
    return (unit :: units, rest)
  | '\\' :: c :: rest => do
    let unit ← escaped? c
    let (units, rest) ← codeUnits rest
    return (unit.toNat :: units, rest)
  | c :: rest =>
    if c.toNat < 32 then none
    else (codeUnits rest).map fun (units, rest) => (c.toNat :: units, rest)
  | [] => none

def isHighSurrogate (unit : Nat) : Bool := 0xD800 ≤ unit && unit < 0xDC00

def isLowSurrogate (unit : Nat) : Bool := 0xDC00 ≤ unit && unit < 0xE000

/-- The text that code units make, unless a half of a pair stands alone. -/
def ofUnits? : List Nat → Option (List Char)
  | [] => some []
  | [unit] => if unit.isValidChar then some [Char.ofNat unit] else none
  | unit :: next :: rest =>
    if isHighSurrogate unit && isLowSurrogate next then
      let c := Char.ofNat (0x10000 + (unit - 0xD800) * 0x400 + (next - 0xDC00))
      (ofUnits? rest).map (c :: ·)
    else if unit.isValidChar then (ofUnits? (next :: rest)).map (Char.ofNat unit :: ·)
    else none

/-- Reads a string after its opening quote. -/
def string (text : List Char) : Option (Option String × List Char) :=
  (codeUnits text).map fun (units, rest) => ((ofUnits? units).map String.ofList, rest)

/-- Reads digits, at least one. -/
def someDigits (text : List Char) : Option (List Char × List Char) :=
  match text.span Char.isDigit with
  | ([], _) => none
  | digits => some digits

/-- Reads a point and the digits after it, if a point comes next. -/
def fraction (text : List Char) : Option (Option (List Char) × List Char) :=
  match text with
  | '.' :: rest => (someDigits rest).map fun (digits, rest) => (some digits, rest)
  | _ => some (none, text)

/-- Whether an exponent is negative, and the text after its sign. -/
def exponentSign (text : List Char) : Bool × List Char :=
  match text with
  | '-' :: rest => (true, rest)
  | '+' :: rest => (false, rest)
  | _ => (false, text)

/-- Reads an exponent, if one comes next. -/
def exponent (text : List Char) : Option (Option (Bool × List Char) × List Char) :=
  match text with
  | c :: rest =>
    if c = 'e' ∨ c = 'E' then
      let (negative, rest) := exponentSign rest
      (someDigits rest).map fun (digits, rest) => (some (negative, digits), rest)
    else some (none, text)
  | [] => some (none, [])

def sign (text : List Char) : Bool × List Char :=
  match text with
  | '-' :: rest => (true, rest)
  | _ => (false, text)

/-- Reads a number, in which no zero stands before another digit. -/
def number (text : List Char) : Option (Number × List Char) := do
  let (negative, rest) := sign text
  let (digits, rest) ← someDigits rest
  if digits.head? = some '0' ∧ digits.length ≠ 1 then none
  let (fraction, rest) ← fraction rest
  let (exponent, rest) ← exponent rest
  return ({ negative, digits, fraction, exponent }, rest)

mutual

/-- Reads a value. The first argument bounds the steps, each of which takes at
least one character. -/
def value : Nat → List Char → Option (Value × List Char)
  | 0, _ => none
  | steps + 1, text =>
    match skip text with
    | 'n' :: 'u' :: 'l' :: 'l' :: rest => some (.null, rest)
    | 't' :: 'r' :: 'u' :: 'e' :: rest => some (.bool true, rest)
    | 'f' :: 'a' :: 'l' :: 's' :: 'e' :: rest => some (.bool false, rest)
    | '"' :: rest => (string rest).map fun (text, rest) => (.string text, rest)
    | '[' :: rest =>
      match skip rest with
      | ']' :: rest => some (.array [], rest)
      | rest => (elements steps rest).map fun (elements, rest) => (.array elements, rest)
    | '{' :: rest =>
      match skip rest with
      | '}' :: rest => some (.object [], rest)
      | rest => (members steps rest).map fun (members, rest) => (.object members, rest)
    | rest => (number rest).map fun (number, rest) => (.number number, rest)

/-- Reads the elements of an array, of which there is at least one. -/
def elements : Nat → List Char → Option (List Value × List Char)
  | 0, _ => none
  | steps + 1, text => do
    let (first, rest) ← value steps text
    match skip rest with
    | ',' :: rest =>
      let (others, rest) ← elements steps rest
      return (first :: others, rest)
    | ']' :: rest => return ([first], rest)
    | _ => none

/-- Reads the members of an object, of which there is at least one. -/
def members : Nat → List Char → Option (List (Option String × Value) × List Char)
  | 0, _ => none
  | steps + 1, text =>
    match skip text with
    | '"' :: rest => do
      let (key, rest) ← string rest
      match skip rest with
      | ':' :: rest =>
        let (first, rest) ← value steps rest
        match skip rest with
        | ',' :: rest =>
          let (others, rest) ← members steps rest
          return ((key, first) :: others, rest)
        | '}' :: rest => return ([(key, first)], rest)
        | _ => none
      | _ => none
    | _ => none

end

end Reader

/-- The value that a text writes, with nothing but blanks around it. -/
def Value.ofText? (text : List Char) : Option Value :=
  match Reader.value (text.length + 1) text with
  | some (value, rest) => if (Reader.skip rest).isEmpty then some value else none
  | none => none

end Inflection.Json
