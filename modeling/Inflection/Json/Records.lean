import Inflection.Derivation
import Inflection.Json.Codec

/-!
How the records and variants of the library are kept as JSON.
-/

namespace Inflection

open Json Json.Value
open Json.Codec (encode decode?)

instance : Codec Slot where
  encode slot := unitVariant slot.name
  decode? value := do
    let (name, content) ← value.variant?
    if isUnit content then Slot.ofName? name else none

instance : Codec PartOfSpeech where
  encode part := unitVariant part.name
  decode? value := do
    let (name, content) ← value.variant?
    if isUnit content then PartOfSpeech.all.find? (·.name = name) else none

instance : Codec Rule.Replacement where
  encode
    | .literal text => variant "Literal" (encode text)
    | .empty => unitVariant "Empty"
    | .absent => unitVariant "Absent"
  decode? value := do
    let (name, content) ← value.variant?
    match name with
    | "Literal" => return .literal (← decode? (← content))
    | "Empty" => if isUnit content then some .empty else none
    | "Absent" => if isUnit content then some .absent else none
    | _ => none

instance : Codec DescribedForm where
  encode form := record [("name", encode form.form), ("description", encode form.description)]
  decode? value := do
    let [form, description] ← value.fields? ["name", "description"] | none
    return ⟨← decode? form, ← decode? description⟩

instance : Codec FormSet where
  encode set := record [("root", encode set.root), ("forms", encode set.forms)]
  decode? value := do
    let [root, forms] ← value.fields? ["root", "forms"] | none
    return ⟨← decode? root, ← decode? forms⟩

instance : Codec WordEntry where
  encode entry :=
    record [("id", encode entry.id), ("name", encode entry.root),
      ("type_id", encode entry.typeId), ("speech_part", encode entry.speechPart),
      ("rules", encode entry.rules)]
  decode? value := do
    let [id, root, typeId, speechPart, rules] ←
      value.fields? ["id", "name", "type_id", "speech_part", "rules"] | none
    return ⟨← decode? id, ← decode? root, ← decode? typeId, ← decode? speechPart,
      ← decode? rules⟩

instance : Codec Derivation where
  encode derivation :=
    record [("entry", encode derivation.entry),
      ("part_of_speech", encode derivation.partOfSpeech), ("forms", encode derivation.forms),
      ("slots", encode derivation.slots)]
  decode? value := do
    let [entry, part, forms, slots] ←
      value.fields? ["entry", "part_of_speech", "forms", "slots"] | none
    return ⟨← decode? entry, ← decode? part, ← decode? forms, ← decode? slots⟩

instance : Codec Error where
  encode
    | .validation root condition message =>
      variant "Validation" (record [("root", encode root), ("condition", encode condition),
        ("message", encode message)])
    | .rule message => variant "Rule" (record [("message", encode message)])
    | .unsupportedSpeechPart tag => variant "UnsupportedSpeechPart" (encode tag)
    | .lookup message => variant "Lookup" (record [("message", encode message)])
    | .config message => variant "Config" (record [("message", encode message)])
    | .io message => variant "Io" (encode message)
    | .serialization message => variant "Serde" (encode message)
    | .internal message => variant "Internal" (encode message)
  decode? value := do
    let (name, some content) ← value.variant? | none
    match name with
    | "Validation" =>
      let [root, condition, message] ← content.fields? ["root", "condition", "message"] | none
      return .validation (← decode? root) (← decode? condition) (← decode? message)
    | "Rule" => (content.singleText? "message").map .rule
    | "UnsupportedSpeechPart" => (decode? content).map .unsupportedSpeechPart
    | "Lookup" => (content.singleText? "message").map .lookup
    | "Config" => (content.singleText? "message").map .config
    | "Io" => (decode? content).map .io
    | "Serde" => (decode? content).map .serialization
    | "Internal" => (decode? content).map .internal
    | _ => none

end Inflection
