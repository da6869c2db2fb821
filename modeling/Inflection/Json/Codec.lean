import Inflection.Json.Reader
import Inflection.Json.Writer
import Inflection.Mapping

/-!
Types whose values are kept as JSON. A record is written as an object and is
read from an object in which each of its fields occurs once, whatever else it
holds, or from an array of its fields in order. A variant is written as its
name, or as an object with its name and its content.
-/

namespace Inflection.Json

class Codec (α : Type) where
  encode : α → Value
  decode? : Value → Option α

/-- The JSON text of a value. -/
def write {α : Type} [Codec α] (a : α) : String := (Codec.encode a).text

/-- The value that a JSON text holds. -/
def read? {α : Type} [Codec α] (text : String) : Option α :=
  (Value.ofText? text.toList).bind Codec.decode?

namespace Value

/-- The members of an object, whose keys must all be texts. -/
def keyed? (members : List (Option String × Value)) : Option (List (String × Value)) :=
  members.mapM fun (key, value) => key.map (·, value)

/-- The value under a key that occurs exactly once. -/
def only? (key : String) (members : List (String × Value)) : Option Value :=
  match members.filter (·.1 = key) with
  | [(_, value)] => some value
  | _ => none

/-- The fields of a record, in the order of their names. -/
def fields? (names : List String) : Value → Option (List Value)
  | object members => do
    let members ← keyed? members
    names.mapM (only? · members)
  | array elements => if elements.length = names.length then some elements else none
  | _ => none

/-- The name of a variant and its content, if it has any. -/
def variant? : Value → Option (String × Option Value)
  | string (some name) => some (name, none)
  | object [(some name, content)] => some (name, some content)
  | _ => none

/-- The content of a variant without data: none, or `null`. -/
def isUnit : Option Value → Bool
  | none | some null => true
  | _ => false

/-- A record with the given fields. -/
def record (fields : List (String × Value)) : Value :=
  object (fields.map fun (name, value) => (some name, value))

/-- A variant without data. -/
def unitVariant (name : String) : Value := string (some name)

/-- A variant with content. -/
def variant (name : String) (content : Value) : Value :=
  object [(some name, content)]

end Value

open Value

instance : Codec String where
  encode text := .string (some text)
  decode?
    | .string (some text) => some text
    | _ => none

instance : Codec UInt64 where
  encode n := .number (.ofNat n.toNat)
  decode?
    | .number numeral =>
      numeral.toNat?.bind fun n => if n < UInt64.size then some (UInt64.ofNat n) else none
    | _ => none

instance {α : Type} [Codec α] : Codec (Option α) where
  encode
    | none => .null
    | some a => Codec.encode a
  decode?
    | .null => some none
    | value => (Codec.decode? value).map some

instance {α : Type} [Codec α] : Codec (List α) where
  encode list := .array (list.map Codec.encode)
  decode?
    | .array elements => elements.mapM Codec.decode?
    | _ => none

/-- The text of a record with one field. -/
def Value.singleText? (field : String) (value : Value) : Option String := do
  let [text] ← value.fields? [field] | none
  Codec.decode? text

/-- A map is an object; of several members with one key the last counts. -/
instance {α : Type} [Codec α] : Codec (Std.ExtTreeMap String α) where
  encode map := record (map.toList.map fun (key, a) => (key, Codec.encode a))
  decode?
    | .object members => do
      let members ← keyed? members
      let entries ← members.mapM fun (key, value) => (Codec.decode? value).map (key, ·)
      return Mapping.ofEntries entries
    | _ => none

end Inflection.Json
