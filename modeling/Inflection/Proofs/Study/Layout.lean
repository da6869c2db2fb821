import Inflection.Proofs.Json.Records
import Inflection.Proofs.Yaml.Document
import Inflection.Study.Text

/-!
Plans as they are written: the word types of each part of speech and the slots of
each word type, in any order. A plan is decoded from the JSON value and from the YAML
tree of the same parts.
-/

namespace Inflection.StudyPlan

open Json (Value)
open Json.Codec (encode decode?)
open Json.LawfulCodec (decode?_encode isWritable_encode)
open Yaml (Document Node ScalarStyle Tree)

/-- The parts of speech, the texts of their word types, and the slots of these, in the order in
which they are written. -/
abbrev Layout := List (String × List (String × List String))

namespace Layout

/-- The plan that is written so. -/
def plan (layout : Layout) : StudyPlan :=
  ⟨Mapping.ofEntries (layout.map fun part => (part.1, Mapping.ofEntries part.2))⟩

section Json

/-- The JSON value of the word types of a part of speech. -/
def typesValue (types : List (String × List String)) : Value :=
  .record (types.map fun entry => (entry.1, encode entry.2))

/-- The JSON value of a plan. -/
def value (layout : Layout) : Value :=
  .record (layout.map fun part => (part.1, typesValue part.2))

theorem decode?_value (layout : Layout) : decode? layout.value = some layout.plan := by
  have htypes (types : List (String × List String)) :
      decode? (typesValue types) = some (Mapping.ofEntries types) := by
    have hdecode := @Json.decode?_record _ _ _ types (·.1) (fun entry => encode entry.2) (·.2)
      fun entry _ => decode?_encode entry.2
    rw [List.map_id'] at hdecode
    exact hdecode
  have hslots := @Json.decode?_record _ _ _ layout (·.1) (fun part => typesValue part.2)
    (fun part => Mapping.ofEntries part.2) fun part _ => htypes part.2
  exact congrArg (Option.map StudyPlan.mk) hslots

theorem isWritable_value (layout : Layout) : layout.value.IsWritable := by
  apply Json.isWritable_record
  rw [List.forall_mem_map]
  intro part _
  apply Json.isWritable_record
  rw [List.forall_mem_map]
  intro entry _
  exact isWritable_encode entry.2

/-- A plan is read from its JSON text. -/
theorem ofJson_text (layout : Layout) : ofJson layout.value.text = .ok layout.plan := by
  rw [ofJson, Json.read?, Json.Value.ofText?_text layout.isWritable_value, Option.bind_some,
    decode?_value]

/-- A JSON text is told by its first character. -/
theorem ofText_text (layout : Layout) : ofText layout.value.text = ofJson layout.value.text := by
  have hbrace : ((layout.value.text.toList.dropWhile Unicode.isBlank).head? = some '\x7b') := by
    rw [Json.Value.text, String.toList_ofList, value, Value.record, Json.Writer.value,
      List.cons_append, List.dropWhile_cons_of_neg (by decide), List.head?_cons]
  rw [ofText, if_pos hbrace]

end Json

section Yaml

/-- A mapping is read as the map of what its values are read as. -/
theorem map?_mapping {α β : Type} {list : List α} {key : α → String} {style : ScalarStyle}
    {value : α → Tree} {value? : Tree → Option β} {result : α → β} (document : Document)
    (h : ∀ a ∈ list, value? (value a) = some (result a)) :
    map? document value? (.mapping (list.map fun a => (.scalar none style (key a), value a))) =
      some (Mapping.ofEntries (list.map fun a => (key a, result a))) := by
  have hpairs : (list.map fun a => (Tree.scalar none style (key a), value a)).mapM
      (fun pair : Tree × Tree => do return (← document.text? pair.1, ← value? pair.2)) =
        some (list.map fun a => (key a, result a)) := by
    apply Json.mapM_map_eq_some
    intro a ha
    simp only [h a ha]
    rfl
  have hmap : map? document value?
      (.mapping (list.map fun a => (.scalar none style (key a), value a))) =
        ((list.map fun a => (Tree.scalar none style (key a), value a)).mapM
          (fun pair : Tree × Tree => do return (← document.text? pair.1, ← value? pair.2))).bind
          fun pairs => some (Mapping.ofEntries pairs) := rfl
  rw [hmap, hpairs, Option.bind_some]

theorem slotNames?_sequence (document : Document) (style : ScalarStyle) (slots : List String) :
    slotNames? document (.sequence (slots.map fun slot => .scalar none style slot)) =
      some slots :=
  Json.mapM_map_eq_self fun _ _ => rfl

variable (speechStyle typeStyle slotStyle : ScalarStyle)

/-- The YAML node of the slots of a word type. -/
def slotsNode (slots : List String) : Node :=
  .sequence none (slots.map fun slot => .scalar none none slotStyle slot)

/-- The YAML node of the word types of a part of speech. -/
def typesNode (types : List (String × List String)) : Node :=
  .mapping none (types.map fun entry =>
    (.scalar none none typeStyle entry.1, slotsNode slotStyle entry.2))

/-- The YAML node of a plan. -/
def node (layout : Layout) : Node :=
  .mapping none (layout.map fun part =>
    (.scalar none none speechStyle part.1, typesNode typeStyle slotStyle part.2))

/-- The YAML tree of the slots of a word type. -/
def slotsTree (slots : List String) : Tree :=
  .sequence (slots.map fun slot => .scalar none slotStyle slot)

/-- The YAML tree of the word types of a part of speech. -/
def typesTree (types : List (String × List String)) : Tree :=
  .mapping (types.map fun entry => (.scalar none typeStyle entry.1, slotsTree slotStyle entry.2))

/-- The YAML tree of a plan. -/
def tree (layout : Layout) : Tree :=
  .mapping (layout.map fun part =>
    (.scalar none speechStyle part.1, typesTree typeStyle slotStyle part.2))

theorem standsFor_tree (layout : Layout) :
    (layout.node speechStyle typeStyle slotStyle).StandsFor
      (layout.tree speechStyle typeStyle slotStyle) := by
  have hslots (slots : List String) : (slotsNode slotStyle slots).StandsFor
      (slotsTree slotStyle slots) :=
    Node.standsFor_sequence fun slot _ => Node.standsFor_scalar slot slotStyle
  have htypes (types : List (String × List String)) :
      (typesNode typeStyle slotStyle types).StandsFor (typesTree typeStyle slotStyle types) :=
    Node.standsFor_mapping fun entry _ => hslots entry.2
  exact Node.standsFor_mapping fun part _ => htypes part.2

theorem map?_tree (document : Document) (layout : Layout) :
    map? document (map? document (slotNames? document))
        (layout.tree speechStyle typeStyle slotStyle) = some layout.plan.slots := by
  have htypes (types : List (String × List String)) :
      map? document (slotNames? document) (typesTree typeStyle slotStyle types) =
        some (Mapping.ofEntries types) := by
    have hmap := @map?_mapping _ _ types (·.1) typeStyle
      (fun entry => slotsTree slotStyle entry.2) _ (·.2) document fun entry _ => slotNames?_sequence document slotStyle entry.2
    rw [List.map_id'] at hmap
    exact hmap
  exact map?_mapping document fun part _ => htypes part.2

/-- A plan is read from its YAML tree, whatever the style of its scalars is. -/
theorem ofDocument?_tree (layout : Layout) :
    ofDocument? ⟨some (layout.tree speechStyle typeStyle slotStyle), []⟩ = some layout.plan := by
  obtain ⟨document, hdocument⟩ : ∃ document : Document,
      document = ⟨some (layout.tree speechStyle typeStyle slotStyle), []⟩ := ⟨_, rfl⟩
  have hroot : document.root = some (layout.tree speechStyle typeStyle slotStyle) := by
    rw [hdocument]
  have hcount := (layout.standsFor_tree speechStyle typeStyle slotStyle).aliasCount_eq document 4
  have hbounds : document.repeatsWithinBounds 4 = true := by
    simp [Document.repeatsWithinBounds, hroot, hcount]
  rw [← hdocument, ofDocument?, hroot]
  simp only [hbounds, map?_tree]
  rfl

end Yaml

end Layout

end Inflection.StudyPlan
