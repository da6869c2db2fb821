import Inflection.Proofs.Study.Layout
import Inflection.Proofs.Utf8
import Inflection.Proofs.Yaml.Json

/-!
Plans that are saved as JSON. Such a text is read as the same plan by both readers,
unless a key of the plan is too long for a YAML mapping.
-/

namespace Inflection.StudyPlan

open Yaml (FlowText IsPortable IsShortKey ScalarStyle)
open Json.Codec (encode)

namespace Layout

/-- The keys of a plan: the parts of speech and the texts of the word types. -/
inductive HasKey (layout : Layout) : String → Prop where
  | speechPart {part : String} {types : List (String × List String)}
      (hpart : (part, types) ∈ layout) : HasKey layout part
  | wordType {part key : String} {types : List (String × List String)} {slots : List String}
      (hpart : (part, types) ∈ layout) (hentry : (key, slots) ∈ types) : HasKey layout key

/-- The strings of a plan: its keys and the names of its slots. -/
inductive HasString (layout : Layout) : String → Prop where
  | key {key : String} (hkey : layout.HasKey key) : HasString layout key
  | slot {part key slot : String} {types : List (String × List String)} {slots : List String}
      (hpart : (part, types) ∈ layout) (hentry : (key, slots) ∈ types) (hslot : slot ∈ slots) :
      HasString layout slot

/-- The JSON text of a plan is a YAML text if all keys are short. -/
theorem flowText_value (layout : Layout)
    (hportable : ∀ text, layout.HasString text → ∀ c ∈ text.toList, IsPortable c) :
    ∃ tokens isValid, FlowText layout.value tokens isValid
        (layout.node .doubleQuoted .doubleQuoted .doubleQuoted)
        (layout.tree .doubleQuoted .doubleQuoted .doubleQuoted) ∧
      (isValid = true ↔ ∀ key, layout.HasKey key → IsShortKey key) := by
  have hslots (part : String × List (String × List String)) (hpart : part ∈ layout)
      (entry : String × List String) (hentry : entry ∈ part.2) :=
    @Yaml.flowText_array _ entry.2 _ _ _ _ _ fun slot hslot =>
      Yaml.flowText_string (hportable slot (.slot hpart hentry hslot))
  have htypes (part : String × List (String × List String)) (hpart : part ∈ layout) :=
    @Yaml.flowText_record _ part.2 _ _ _ _ _ _
      (fun entry hentry => hportable entry.1 (.key (.wordType hpart hentry))) (hslots part hpart)
  have htext := @Yaml.flowText_record _ layout _ _ _ _ _ _
      (fun part hpart => hportable part.1 (.key (.speechPart hpart))) htypes
  refine ⟨_, _, htext, ?_⟩
  simp only [List.all_eq_true, Bool.and_eq_true, decide_eq_true_eq, implies_true, and_true]
  constructor
  · intro hshort key hkey
    cases hkey with
    | @speechPart _ types hpart => exact (hshort (key, types) hpart).1
    | @wordType part _ types slots hpart hentry =>
      exact (hshort (part, types) hpart).2 (key, slots) hentry
  · rintro hshort ⟨part, types⟩ hpart
    refine ⟨hshort part (.speechPart hpart), ?_⟩
    rintro ⟨key, slots⟩ hentry
    exact hshort key (.wordType hpart hentry)

open Classical in
/-- The JSON text of a plan is read as YAML just if its keys are short. -/
theorem ofYaml_text (layout : Layout)
    (hportable : ∀ text, layout.HasString text → ∀ c ∈ text.toList, IsPortable c) :
    ofYaml layout.value.text = if ∀ key, layout.HasKey key → IsShortKey key then .ok layout.plan
      else .error (.config "invalid YAML study configuration") := by
  obtain ⟨tokens, isValid, htext, hvalid⟩ := layout.flowText_value hportable
  rw [ofYaml, Json.Value.text, String.toList_ofList, htext.ofText?_eq]
  by_cases hshort : ∀ key, layout.HasKey key → IsShortKey key
  · rw [if_pos hshort, if_pos (hvalid.2 hshort), Option.bind_some, ofDocument?_tree]
  · rw [if_neg hshort, if_neg (mt hvalid.1 hshort), Option.bind_none]

end Layout

section Saved

/-- A plan as it is saved: in the order of its keys. -/
def layout (plan : StudyPlan) : Layout :=
  plan.slots.toList.map fun part => (part.1, part.2.toList)

theorem plan_layout (plan : StudyPlan) : plan.layout.plan = plan := by
  have hslots : (plan.slots.toList.map fun part => (part.1, Mapping.ofEntries part.2.toList)) =
      plan.slots.toList := by
    simp only [Mapping.ofEntries_toList, List.map_id']
  rw [Layout.plan, layout, List.map_map]
  exact congrArg StudyPlan.mk ((congrArg Mapping.ofEntries hslots).trans
    (Mapping.ofEntries_toList plan.slots))

theorem write_eq (plan : StudyPlan) : Json.write plan = plan.layout.value.text := by
  have hvalue : plan.layout.value = encode plan := by
    rw [Layout.value, layout, List.map_map]
    rfl
  rw [hvalue, Json.write]

/-- A file of which the text is read alike in either format. -/
theorem ofFile_eq {file : File} {text : String} {plan : StudyPlan} (htext : file.text = .ok text)
    (hjson : ofJson text = .ok plan) (hyaml : ofYaml text = .ok plan)
    (hany : ofText text = .ok plan) : ofFile file = .ok plan := by
  rw [ofFile, htext]
  simp only [bind, Except.bind]
  split
  · exact hjson
  · exact hyaml
  · exact hyaml
  · exact hany

end Saved

section Single

variable {part key : String} {slots : List String}

theorem layout_single (part key : String) (slots : List String) :
    (Layout.plan [(part, [(key, slots)])]).layout = [(part, [(key, slots)])] :=
  rfl

theorem Layout.hasKey_single {text : String} (h : Layout.HasKey [(part, [(key, slots)])] text) :
    text = part ∨ text = key := by
  cases h with
  | speechPart hpart =>
    cases List.mem_singleton.1 hpart
    exact .inl rfl
  | wordType hpart hentry =>
    cases List.mem_singleton.1 hpart
    cases List.mem_singleton.1 hentry
    exact .inr rfl

theorem Layout.hasString_single {text : String}
    (h : Layout.HasString [(part, [(key, slots)])] text) : text ∈ part :: key :: slots := by
  cases h with
  | key hkey =>
    rcases hasKey_single hkey with rfl | rfl
    · exact List.mem_cons_self
    · exact List.mem_cons_of_mem _ List.mem_cons_self
  | slot hpart hentry hslot =>
    cases List.mem_singleton.1 hpart
    cases List.mem_singleton.1 hentry
    exact List.mem_cons_of_mem _ (List.mem_cons_of_mem _ hslot)

end Single

section Readers

/-- A plan with short keys is read from the JSON text that it is saved as, whichever reader is
picked. -/
theorem loads_saved {plan : StudyPlan}
    (hportable : ∀ text, plan.layout.HasString text → ∀ c ∈ text.toList, IsPortable c)
    (hshort : ∀ key, plan.layout.HasKey key → IsShortKey key) :
    ofJson (Json.write plan) = .ok plan ∧ ofYaml (Json.write plan) = .ok plan ∧
      ofText (Json.write plan) = .ok plan ∧
      ∀ (name : String) (bytes : List UInt8),
        bytes.toByteArray = (Json.write plan).toByteArray →
          ofFile ⟨name, some bytes⟩ = .ok plan := by
  have hjson : ofJson (Json.write plan) = .ok plan := by
    rw [write_eq, Layout.ofJson_text, plan_layout]
  have hyaml : ofYaml (Json.write plan) = .ok plan := by
    rw [write_eq, plan.layout.ofYaml_text hportable, if_pos hshort, plan_layout]
  have hany : ofText (Json.write plan) = .ok plan := by
    rw [write_eq, Layout.ofText_text, ← write_eq, hjson]
  refine ⟨hjson, hyaml, hany, ?_⟩
  intro name bytes hbytes
  exact ofFile_eq (File.decodeUtf8_eq_ok_iff.2 hbytes.symm) hjson hyaml hany

theorem loads_saved_indicators :
    ofYaml (Json.write
        (Layout.plan [("- &a: *b #", [("\x7b1\x7d", [" 'x': [y]\n", "", "null"])])])) =
      .ok (Layout.plan [("- &a: *b #", [("\x7b1\x7d", [" 'x': [y]\n", "", "null"])])]) := by
  refine (loads_saved ?_ ?_).2.1
  · intro text htext
    rw [layout_single] at htext
    have hportable : ["- &a: *b #", "\x7b1\x7d", " 'x': [y]\n", "", "null"].all
        (·.toList.all (decide <| IsPortable ·)) = true := by decide
    simp only [List.all_eq_true, decide_eq_true_eq] at hportable
    exact hportable text (Layout.hasString_single htext)
  · intro key hkey
    rw [layout_single] at hkey
    rcases Layout.hasKey_single hkey with rfl | rfl
    · decide
    · decide

section Long

variable {c : Char} {count : Nat}

/-- What a key of one repeated character is written as, if this needs no escape. -/
theorem write_replicate (hc : Json.Writer.character c = [c]) (count : Nat) :
    Json.write (String.ofList (List.replicate count c)) =
      String.ofList ('"' :: (List.replicate count c ++ ['"'])) := by
  have hcharacters : (List.replicate count c).flatMap Json.Writer.character =
      List.replicate count c := by
    rw [List.flatMap_replicate, hc, List.flatten_replicate_singleton]
  simp only [Json.write, encode, Json.Value.text, Json.Writer.value, Option.getD_some,
    String.toList_ofList, Json.Writer.string, hcharacters, List.cons_append]

theorem length_write_replicate (hc : Json.Writer.character c = [c]) :
    (Json.write (String.ofList (List.replicate count c))).length = count + 2 := by
  rw [write_replicate hc, String.length_ofList, List.length_cons, List.length_append,
    List.length_replicate, List.length_singleton]

theorem utf8ByteSize_replicate (c : Char) (count : Nat) :
    (String.ofList (List.replicate count c)).utf8ByteSize = count * c.utf8Size := by
  induction count with
  | zero => rw [List.replicate_zero, Nat.zero_mul, String.ofList_nil, String.utf8ByteSize_empty]
  | succ count ih =>
    rw [List.replicate_succ, String.ofList_cons, String.utf8ByteSize_append,
      String.utf8ByteSize_singleton, ih, Nat.succ_mul, Nat.add_comm]

theorem isShortKey_replicate_iff (hc : Json.Writer.character c = [c]) :
    IsShortKey (String.ofList (List.replicate count c)) ↔ count * c.utf8Size + 2 ≤ 1024 := by
  have hsize : (Json.write (String.ofList (List.replicate count c))).utf8ByteSize =
      count * c.utf8Size + 2 := by
    have hquote : (String.ofList ['"']).utf8ByteSize = 1 := rfl
    rw [write_replicate hc, String.ofList_cons, String.ofList_append, String.utf8ByteSize_append,
      String.utf8ByteSize_append, utf8ByteSize_replicate, hquote]
    exact Nat.add_comm 1 _
  rw [IsShortKey, hsize]

end Long

/-- A key of at most 1000 characters can be too long for a YAML mapping. -/
theorem not_ofYaml_of_length_le : ¬ ∀ plan : StudyPlan,
    (∀ text, plan.layout.HasString text → ∀ c ∈ text.toList, IsPortable c) →
    (∀ key, plan.layout.HasKey key → (Json.write key).length ≤ 1000) →
      ofYaml (Json.write plan) = .ok plan := by
  intro h
  obtain ⟨key, hkey⟩ : ∃ key, key = String.ofList (List.replicate 512 'я') := ⟨_, rfl⟩
  have hlayout : (Layout.plan [(key, [("1", ["x"])])]).layout = [(key, [("1", ["x"])])] :=
    layout_single key "1" ["x"]
  have hportable : ∀ text, (Layout.plan [(key, [("1", ["x"])])]).layout.HasString text →
      ∀ c ∈ text.toList, IsPortable c := by
    intro text htext c hc
    rw [hlayout] at htext
    rcases List.mem_cons.1 (Layout.hasString_single htext) with rfl | hother
    · rw [hkey, String.toList_ofList] at hc
      rw [List.eq_of_mem_replicate hc]
      decide
    · have hothers : ["1", "x"].all (·.toList.all (decide <| IsPortable ·)) = true := by decide
      simp only [List.all_eq_true, decide_eq_true_eq] at hothers
      exact hothers text hother c hc
  have hlength : ∀ text, (Layout.plan [(key, [("1", ["x"])])]).layout.HasKey text →
      (Json.write text).length ≤ 1000 := by
    intro text htext
    rw [hlayout] at htext
    rcases Layout.hasKey_single htext with rfl | rfl
    · rw [hkey, length_write_replicate (by decide)]
      decide
    · decide
  have hlong : ¬ ∀ text, (Layout.plan [(key, [("1", ["x"])])]).layout.HasKey text →
      IsShortKey text := by
    intro hshort
    have hmem : (Layout.plan [(key, [("1", ["x"])])]).layout.HasKey key := by
      rw [hlayout]
      exact .speechPart List.mem_cons_self
    have hbytes := hshort key hmem
    rw [hkey, isShortKey_replicate_iff (by decide)] at hbytes
    exact absurd hbytes (by decide)
  have hread := h _ hportable hlength
  rw [write_eq, Layout.ofYaml_text _ hportable, if_neg hlong] at hread
  cases hread

end Readers

end Inflection.StudyPlan
