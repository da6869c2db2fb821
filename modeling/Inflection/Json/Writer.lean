import Inflection.Json.Value

/-!
Writing JSON text without blanks. Only quotes, backslashes and the characters
below the blank are escaped.
-/

namespace Inflection.Json

namespace Writer

/-- A character inside a string. -/
def character (c : Char) : List Char :=
  match c with
  | '"' => ['\\', '"']
  | '\\' => ['\\', '\\']
  | '\x08' => ['\\', 'b']
  | '\x0c' => ['\\', 'f']
  | '\n' => ['\\', 'n']
  | '\r' => ['\\', 'r']
  | '\t' => ['\\', 't']
  | _ =>
    if c.toNat < 32 then
      ['\\', 'u', '0', '0', Nat.digitChar (c.toNat / 16), Nat.digitChar (c.toNat % 16)]
    else [c]

/-- A string between its quotes. -/
def string (text : List Char) : List Char :=
  '"' :: text.flatMap character ++ ['"']

def sign (negative : Bool) : List Char :=
  if negative then ['-'] else []

/-- A point and the digits after it, if there are any. -/
def fraction : Option (List Char) → List Char
  | none => []
  | some digits => '.' :: digits

/-- An exponent, if there is one. -/
def exponent : Option (Bool × List Char) → List Char
  | none => []
  | some (negative, digits) => 'e' :: (sign negative ++ digits)

/-- A number as it is given. -/
def number (n : Number) : List Char :=
  sign n.negative ++ (n.digits ++ (fraction n.fraction ++ exponent n.exponent))

mutual

def value : Value → List Char
  | .null => "null".toList
  | .bool true => "true".toList
  | .bool false => "false".toList
  | .number n => number n
  | .string text => string (text.getD "").toList
  | .array elements => '[' :: elementsOf elements ++ [']']
  | .object members => '\x7b' :: membersOf members ++ ['\x7d']

/-- The elements of an array, separated by commas. -/
def elementsOf : List Value → List Char
  | [] => []
  | [first] => value first
  | first :: others => value first ++ ',' :: elementsOf others

/-- The members of an object, separated by commas. -/
def membersOf : List (Option String × Value) → List Char
  | [] => []
  | [(key, first)] => string (key.getD "").toList ++ ':' :: value first
  | (key, first) :: others =>
    string (key.getD "").toList ++ ':' :: value first ++ ',' :: membersOf others

end

end Writer

/-- The text of a value, without blanks. -/
def Value.text (v : Value) : String := String.ofList (Writer.value v)

end Inflection.Json
