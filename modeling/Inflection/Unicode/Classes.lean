import Inflection.Unicode.BinaryProperty
import Inflection.Unicode.GeneralCategory

/-!
The character classes that have names of their own: blanks, letters, decimal
digits and the characters of words.
-/

namespace Inflection.Unicode

/-- White space, in the sense of the Unicode property of that name. -/
def isBlank (c : Char) : Bool :=
  let n := c.toNat
  (9 ≤ n && n ≤ 13) || n = 32 || n = 0x85 || n = 0xA0 || n = 0x1680 ||
    (0x2000 ≤ n && n ≤ 0x200A) || n = 0x2028 || n = 0x2029 || n = 0x202F ||
    n = 0x205F || n = 0x3000

/-- The set with the given name, which the table is to hold. -/
def named (table : Table) (name : String) : CharSet :=
  (table.find? name).getD ∅

def blanks : CharSet := named BinaryProperty.table "whitespace"

def alphabetic : CharSet := named BinaryProperty.table "alphabetic"

def decimalDigits : CharSet := named GeneralCategory.table "decimalnumber"

/-- Letters and numbers of all kinds. -/
def alphanumeric : CharSet := alphabetic ∪ named GeneralCategory.table "number"

/-- The characters of words: letters, marks, decimal digits, connecting
punctuation such as the low line, and the two joining controls. -/
def wordCharacters : CharSet :=
  alphabetic ∪ named GeneralCategory.table "mark" ∪ decimalDigits ∪
    named GeneralCategory.table "connectorpunctuation" ∪ named BinaryProperty.table "joincontrol"

end Inflection.Unicode
