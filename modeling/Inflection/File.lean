import Inflection.Error
import Inflection.Utf8

/-!
Files as the library sees them: a name, and the bytes if the file exists.
-/

namespace Inflection

structure File where
  name : String
  bytes : Option (List UInt8)

namespace File

/-- The bytes of a file, or the error that it does not exist. -/
def contents (file : File) : Except Error (List UInt8) :=
  match file.bytes with
  | some bytes => .ok bytes
  | none => .error (.io "No such file or directory (os error 2)")

/-- The text that the bytes encode, or the error that they encode none. -/
def decodeUtf8 (bytes : List UInt8) : Except Error String :=
  match Utf8.decode? (bytes.map UInt8.toNat) with
  | some text => .ok (String.ofList text)
  | none => .error (.io "stream did not contain valid UTF-8")

def text (file : File) : Except Error String := do
  decodeUtf8 (← file.contents)

/-- The part of the last component of the name after its last period. A name
that only begins with a period has none. -/
def extension (file : File) : Option (List Char) :=
  let component := (file.name.toList.reverse.takeWhile (· != '/')).reverse
  match component.reverse.span (· != '.') with
  | (_, []) | (_, [_]) => none
  | (reversed, _) => some reversed.reverse

end File

end Inflection
