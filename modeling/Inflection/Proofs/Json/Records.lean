import Inflection.Json.Records
import Inflection.Proofs.Json.Codec
import Inflection.Study.Plan

/-!
The records and variants of the library are read back from what they are written
as.
-/

namespace Inflection

open Json Json.Value
open Json.Codec (encode decode?)
open Json.LawfulCodec (decode?_encode isWritable_encode)

instance : LawfulCodec Slot where
  decode?_encode slot := by cases slot <;> rfl
  isWritable_encode slot := .string slot.name

instance : LawfulCodec PartOfSpeech where
  decode?_encode part := by cases part <;> rfl
  isWritable_encode part := .string part.name

instance : LawfulCodec Rule.Replacement where
  decode?_encode replacement := by cases replacement <;> rfl
  isWritable_encode
    | .literal text => isWritable_variant "Literal" (isWritable_encode text)
    | .empty => .string "Empty"
    | .absent => .string "Absent"

instance : LawfulCodec DescribedForm where
  decode?_encode form := by
    have hfields := fields?_record [("name", encode form.form),
      ("description", encode form.description)] (by simp)
    simp only [List.map_cons, List.map_nil] at hfields
    unfold instCodecDescribedForm
    simp only [hfields, Option.bind_eq_bind, Option.bind_some, decode?_encode, Option.pure_def]
  isWritable_encode form := by
    apply isWritable_record
    simp [isWritable_encode]

instance : LawfulCodec FormSet where
  decode?_encode set := by
    have hfields := fields?_record [("root", encode set.root),
      ("forms", encode set.forms)] (by simp)
    simp only [List.map_cons, List.map_nil] at hfields
    unfold instCodecFormSet
    simp only [hfields, Option.bind_eq_bind, Option.bind_some, decode?_encode, Option.pure_def]
  isWritable_encode set := by
    apply isWritable_record
    simp [isWritable_encode]

instance : LawfulCodec WordEntry where
  decode?_encode entry := by
    have hfields := fields?_record [("id", encode entry.id), ("name", encode entry.root),
      ("type_id", encode entry.typeId), ("speech_part", encode entry.speechPart),
      ("rules", encode entry.rules)] (by simp)
    simp only [List.map_cons, List.map_nil] at hfields
    unfold instCodecWordEntry
    simp only [hfields, Option.bind_eq_bind, Option.bind_some, decode?_encode, Option.pure_def]
  isWritable_encode entry := by
    apply isWritable_record
    simp [isWritable_encode]

instance : LawfulCodec Derivation where
  decode?_encode derivation := by
    have hfields := fields?_record [("entry", encode derivation.entry),
      ("part_of_speech", encode derivation.partOfSpeech), ("forms", encode derivation.forms),
      ("slots", encode derivation.slots)] (by simp)
    simp only [List.map_cons, List.map_nil] at hfields
    unfold instCodecDerivation
    simp only [hfields, Option.bind_eq_bind, Option.bind_some, decode?_encode, Option.pure_def]
  isWritable_encode derivation := by
    apply isWritable_record
    simp [isWritable_encode]

instance : LawfulCodec StudyPlan where
  decode?_encode plan := by
    unfold instCodecStudyPlan
    simp only [decode?_encode, Option.map_some]
  isWritable_encode plan := isWritable_encode plan.slots

theorem singleText?_record (field text : String) :
    (record [(field, encode text)]).singleText? field = some text := by
  have hfields := fields?_record [(field, encode text)] (by simp)
  simp only [List.map_cons, List.map_nil] at hfields
  simp only [singleText?, hfields, Option.bind_eq_bind, Option.bind_some, decode?_encode]

instance : LawfulCodec Error where
  decode?_encode error := by
    cases error with
    | validation root condition message =>
      have hfields := fields?_record [("root", encode root), ("condition", encode condition),
        ("message", encode message)] (by simp)
      simp only [List.map_cons, List.map_nil] at hfields
      unfold instCodecError
      simp only [variant, variant?, Option.bind_eq_bind, Option.bind_some, hfields, decode?_encode,
        Option.pure_def]
    | rule message => exact congrArg (Option.map Error.rule) (singleText?_record "message" message)
    | lookup message =>
      exact congrArg (Option.map Error.lookup) (singleText?_record "message" message)
    | config message =>
      exact congrArg (Option.map Error.config) (singleText?_record "message" message)
    | _ => rfl
  isWritable_encode error := by
    cases error with
    | validation root condition message =>
      apply isWritable_variant
      apply isWritable_record
      simp [isWritable_encode]
    | rule message | lookup message | config message =>
      apply isWritable_variant
      apply isWritable_record
      simp [isWritable_encode]
    | _ message => exact isWritable_variant _ (isWritable_encode message)

/-- The records and variants are read back from their texts, and what is read from any text is read
again from the text that it is written as. -/
theorem Json.roundTrips_records :
    RoundTrips Slot ∧ RoundTrips PartOfSpeech ∧ RoundTrips Rule.Replacement ∧
      RoundTrips DescribedForm ∧ RoundTrips FormSet ∧ RoundTrips WordEntry ∧ RoundTrips Derivation ∧
      RoundTrips Mapping ∧ RoundTrips StudyPlan ∧ RoundTrips Error :=
  ⟨roundTrips, roundTrips, roundTrips, roundTrips, roundTrips, roundTrips, roundTrips, roundTrips,
    roundTrips, roundTrips⟩

end Inflection
