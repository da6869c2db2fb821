import Inflection.Proofs.Study.Calls
import Inflection.Proofs.Yaml.Block
import Inflection.Proofs.Yaml.Node

/-!
Plans that are written by hand: as block YAML, where each part of speech, word type
and slot has its line, as JSON, or as one call for each word type. All three make the
same plan, whatever the order of the parts of speech and the word types is.
-/

namespace Inflection.StudyPlan.Outline

open Yaml (BlockLine IsStream Node ScalarStyle Token)
open Yaml.Lexer (IsBlock IsWord isKey_digits isKey_word isBlockPart_flatMap isBlockPart_item
  isBlockPart_pair)

/-- The text of a plan in block YAML. -/
def blockText (outline : Outline) : String :=
  String.join (outline.map fun part => part.1 ++ ":\n" ++
    String.join (part.2.map fun entry => "  '" ++ typeKey entry.1 ++ "':\n" ++
      String.join (entry.2.map fun slot => "    - " ++ slot ++ "\n")))

/-- The text of a plan in JSON. -/
def jsonText (outline : Outline) : String := outline.layout.value.text

/-- A word of small letters and low lines. -/
structure IsName (text : String) : Prop where
  ne_empty : text ≠ ""
  isWordCharacter : ∀ c ∈ text.toList, c = '_' ∨ ('a' ≤ c ∧ c ≤ 'z')
  length_le : text.length ≤ 1000

theorem isName_iff {text : String} : IsName text ↔ text ≠ "" ∧
    (text.toList.all fun c => c = '_' || ('a' ≤ c && c ≤ 'z')) = true ∧ text.length ≤ 1000 := by
  simp only [List.all_eq_true, Bool.or_eq_true, Bool.and_eq_true, decide_eq_true_eq]
  exact ⟨fun h => ⟨h.ne_empty, h.isWordCharacter, h.length_le⟩, fun h => ⟨h.1, h.2.1, h.2.2⟩⟩

instance (text : String) : Decidable (IsName text) := decidable_of_iff' _ isName_iff

/-- Whether an outline can be written in block YAML: no list of slots is empty, and parts of speech
and slots are named by words. -/
structure IsWritable (outline : Outline) : Prop extends outline.IsProper where
  speechParts : ∀ part ∈ outline, IsName part.1
  slots_ne_nil : ∀ part ∈ outline, ∀ entry ∈ part.2, entry.2 ≠ []
  slots : ∀ part ∈ outline, ∀ entry ∈ part.2, ∀ slot ∈ entry.2, IsName slot

section Lines

def slotsLines (slots : List String) : List BlockLine :=
  slots.flatMap fun slot => [⟨4, '-' :: ' ' :: slot.toList⟩]

def typesLines (types : List (UInt64 × List String)) : List BlockLine :=
  types.flatMap fun entry =>
    ⟨2, '\'' :: ((typeKey entry.1).toList ++ ['\'']) ++ [':']⟩ :: slotsLines entry.2

/-- The lines of a plan in block YAML. -/
def lines (outline : Outline) : List BlockLine :=
  outline.flatMap fun part => ⟨0, part.1.toList ++ [':']⟩ :: typesLines part.2

theorem texts_slotsLines (slots : List String) : BlockLine.texts (slotsLines slots) =
    (String.join (slots.map fun slot => "    - " ++ slot ++ "\n")).toList := by
  rw [BlockLine.texts, slotsLines, List.flatMap_assoc, String.toList_join, List.flatMap_map]
  apply List.flatMap_congr
  intro slot _
  simp [BlockLine.text, List.replicate]

theorem texts_typesLines (types : List (UInt64 × List String)) :
    BlockLine.texts (typesLines types) =
      (String.join (types.map fun entry => "  '" ++ typeKey entry.1 ++ "':\n" ++
        String.join (entry.2.map fun slot => "    - " ++ slot ++ "\n"))).toList := by
  rw [BlockLine.texts, typesLines, List.flatMap_assoc, String.toList_join, List.flatMap_map]
  apply List.flatMap_congr
  intro entry _
  rw [List.flatMap_cons, ← BlockLine.texts, texts_slotsLines]
  simp [BlockLine.text, List.replicate]

theorem texts_lines (outline : Outline) :
    BlockLine.texts outline.lines = outline.blockText.toList := by
  rw [BlockLine.texts, lines, List.flatMap_assoc, blockText, String.toList_join, List.flatMap_map]
  apply List.flatMap_congr
  intro part _
  rw [List.flatMap_cons, ← BlockLine.texts, texts_typesLines]
  simp [BlockLine.text]

end Lines

section Tokens

def slotsTokens (slots : List String) : List Token :=
  Node.blockSequence (slots.map fun slot => [.scalar slot .plain])

def typesTokens (types : List (UInt64 × List String)) : List Token :=
  Node.blockMapping (types.map fun entry =>
    Node.pair true (typeKey entry.1) .singleQuoted (slotsTokens entry.2))

/-- The tokens of a plan in block YAML. -/
def tokens (outline : Outline) : List Token :=
  Node.blockMapping (outline.map fun part => Node.pair true part.1 .plain (typesTokens part.2))

/-- The tokens are those of a plan with its word types in quotes. -/
theorem readsAs_node (outline : Outline) : Node.ReadsAs true outline.tokens true
    (outline.layout.node .plain .singleQuoted .plain) := by
  have hslots (slots : List String) :
      Node.ReadsAs true (slotsTokens slots) true (Layout.slotsNode .plain slots) :=
    Node.readsAs_blockSequence fun slot _ => Node.readsAs_scalar true slot .plain
  have htypes (types : List (UInt64 × List String)) : Node.ReadsAs true (typesTokens types) true
      (Layout.typesNode .singleQuoted .plain
        (types.map fun entry => (typeKey entry.1, entry.2))) := by
    rw [Layout.typesNode, List.map_map]
    exact Node.readsAs_blockMapping fun entry _ => hslots entry.2
  rw [Layout.node, layout, List.map_map]
  exact Node.readsAs_blockMapping fun part _ => htypes part.2

theorem IsName.isWord {text : String} (h : IsName text) : IsWord text.toList where
  ne_nil := by
    rw [ne_eq, String.toList_eq_nil_iff]
    exact h.ne_empty
  isWordCharacter c hc := by
    simpa [Yaml.Scalar.isWordCharacter] using h.isWordCharacter c hc

theorem isBlock_slots {slots : List String} (hne : slots ≠ []) (h : ∀ slot ∈ slots, IsName slot) :
    IsBlock 4 (slotsLines slots) (slotsTokens slots) := by
  have hpart := isBlockPart_flatMap hne fun slot hslot => isBlockPart_item 4 (h slot hslot).isWord
  simp only [String.ofList_toList] at hpart
  rw [slotsTokens, Node.blockSequence, List.flatMap_map]
  exact hpart.isBlock

theorem isDigit_typeKey (typeId : UInt64) : ∀ c ∈ (typeKey typeId).toList, c.isDigit = true := by
  intro c hc
  rw [typeKey, Nat.toString_eq_ofList_toDigits, String.toList_ofList] at hc
  exact Nat.isDigit_of_mem_toDigits (by decide) (by decide) hc

theorem length_typeKey (typeId : UInt64) : (typeKey typeId).toList.length ≤ 20 := by
  rw [typeKey, Nat.toString_eq_ofList_toDigits, String.toList_ofList,
    Nat.length_toDigits_le_iff (by decide) (by decide)]
  exact Nat.lt_of_lt_of_le typeId.toNat_lt (by decide)

theorem isBlock_types {types : List (UInt64 × List String)} (hne : types ≠ [])
    (hslots : ∀ entry ∈ types, entry.2 ≠ [])
    (h : ∀ entry ∈ types, ∀ slot ∈ entry.2, IsName slot) :
    IsBlock 2 (typesLines types) (typesTokens types) := by
  have hpart := isBlockPart_flatMap hne fun entry hentry => isBlockPart_pair (show 2 < 4 by decide)
    (isKey_digits (isDigit_typeKey entry.1) (Nat.le_trans (length_typeKey entry.1) (by decide)))
    (isBlock_slots (hslots entry hentry) (h entry hentry))
  simp only [String.ofList_toList] at hpart
  rw [typesTokens, Node.blockMapping, ← List.flatMap_def]
  exact hpart.isBlock

/-- The lines of a plan are seen as its tokens. -/
theorem IsWritable.isBlock {outline : Outline} (h : outline.IsWritable) (hne : outline ≠ []) :
    IsBlock 0 outline.lines outline.tokens := by
  have hpart := isBlockPart_flatMap hne fun part hpart => isBlockPart_pair (show 0 < 2 by decide)
    (isKey_word (h.speechParts part hpart).isWord
      (Nat.le_trans (h.speechParts part hpart).length_le (by decide)))
    (isBlock_types (h.types_ne_nil part hpart) (h.slots_ne_nil part hpart) (h.slots part hpart))
  simp only [String.ofList_toList] at hpart
  rw [tokens, Node.blockMapping, ← List.flatMap_def]
  exact hpart.isBlock

end Tokens

section Streams

theorem IsName.isStream {text : String} (h : IsName text) : IsStream text.toList :=
  Yaml.isStream_of_printable h.isWord.isPrintable

theorem isStream_typeKey (typeId : UInt64) : IsStream (typeKey typeId).toList := by
  apply Yaml.isStream_of_printable
  intro c hc
  have hrange := Yaml.Scalar.toNat_of_isDigit (isDigit_typeKey typeId c hc)
  omega

theorem IsWritable.isStream {outline : Outline} (h : outline.IsWritable) :
    IsStream (BlockLine.texts outline.lines) := by
  have hcolon : IsStream [':'] := by decide
  have hquote : IsStream ['\''] := by decide
  have hitem : IsStream ['-', ' '] := by decide
  have hlines : ∀ line ∈ outline.lines, IsStream line.content := by
    intro line hline
    obtain ⟨part, hpart, hline⟩ := List.mem_flatMap.1 hline
    rcases List.mem_cons.1 hline with rfl | hline
    · exact (h.speechParts part hpart).isStream.append hcolon
    obtain ⟨entry, hentry, hline⟩ := List.mem_flatMap.1 hline
    rcases List.mem_cons.1 hline with rfl | hline
    · exact (hquote.append ((isStream_typeKey entry.1).append hquote)).append hcolon
    obtain ⟨slot, hslot, hline⟩ := List.mem_flatMap.1 hline
    rw [List.mem_singleton.1 hline]
    exact hitem.append (h.slots part hpart entry hentry slot hslot).isStream
  apply Yaml.isStream_flatMap
  intro line hline
  have hblanks : IsStream (List.replicate line.indent ' ') := by
    intro c hc
    rw [List.eq_of_mem_replicate hc]
    decide
  exact hblanks.append ((hlines line hline).append (by decide : IsStream ['\n']))

end Streams

section Readers

theorem ofYaml_blockText {outline : Outline} (h : outline.IsWritable) :
    ofYaml outline.blockText = .ok outline.layout.plan := by
  have hdocument : (Yaml.Document.ofText? outline.blockText.toList).bind ofDocument? =
      some outline.layout.plan := by
    by_cases hempty : outline = []
    · rw [hempty]
      rfl
    · have htokens := (h.isBlock hempty).ofText?_eq h.isStream
      have hnode := outline.readsAs_node.ofTokens?_eq
      have hstands := outline.layout.standsFor_tree .plain .singleQuoted .plain
      rw [← texts_lines, hstands.ofText?_eq htokens hnode, Option.bind_some,
        Layout.ofDocument?_tree]
  rw [ofYaml, hdocument]

theorem isBlank_eq_false {c : Char} (hc : Yaml.Scalar.isWordCharacter c = true) :
    Unicode.isBlank c = false := by
  have hrange := Yaml.Scalar.toNat_of_isWordCharacter hc
  simp only [Unicode.isBlank, Bool.or_eq_false_iff, Bool.and_eq_false_iff, decide_eq_false_iff_not]
  omega

/-- A block text is not taken for a JSON text. -/
theorem ofText_blockText {outline : Outline} (h : outline.IsWritable) :
    ofText outline.blockText = ofYaml outline.blockText := by
  have hbrace : (outline.blockText.toList.dropWhile Unicode.isBlank).head? ≠ some '\x7b' := by
    cases outline with
    | nil => decide
    | cons part outline =>
      have hword := (h.speechParts part List.mem_cons_self).isWord
      obtain ⟨c, more, hcontent⟩ := List.exists_cons_of_ne_nil hword.ne_nil
      have hc := hword.isWordCharacter c (hcontent ▸ List.mem_cons_self)
      obtain ⟨rest, hrest⟩ : ∃ rest, BlockLine.texts (lines (part :: outline)) = c :: rest := by
        rw [lines, List.flatMap_cons, hcontent]
        exact ⟨_, rfl⟩
      rw [← texts_lines, hrest, List.dropWhile_cons_of_neg (by simp [isBlank_eq_false hc]),
        List.head?_cons]
      exact fun heq => Yaml.Scalar.ne_of_isWordCharacter hc (by decide) (Option.some.inj heq)
  rw [ofText, if_neg hbrace]

/-- The three ways to write a plan agree, in whatever order the parts of speech and the word types
are written. -/
theorem ways_agree {block json : Outline} {calls : List Call} (hblock : block.IsWritable)
    (hjson : json.IsWritable) (hsame : json.calls.Perm block.calls)
    (hcalls : calls.Perm block.calls) :
    ofYaml block.blockText = .ok (ofCalls calls) ∧ ofJson json.jsonText = .ok (ofCalls calls) ∧
      ofText block.blockText = .ok (ofCalls calls) ∧
      ofText json.jsonText = .ok (ofCalls calls) := by
  have hmade : ofCalls calls = block.layout.plan := by
    rw [← ofCalls_calls hblock.toIsProper, ofCalls_perm hcalls.symm hblock.nodup_calls]
  have hmade' : ofCalls calls = json.layout.plan := by
    rw [← ofCalls_calls hjson.toIsProper,
      ofCalls_perm (hsame.trans hcalls.symm) hjson.nodup_calls]
  have hyaml : ofYaml block.blockText = .ok (ofCalls calls) := by
    rw [hmade, ofYaml_blockText hblock]
  have hvalue : ofJson json.jsonText = .ok (ofCalls calls) := by
    rw [hmade', jsonText, Layout.ofJson_text]
  refine ⟨hyaml, hvalue, ?_, ?_⟩
  · rw [ofText_blockText hblock, hyaml]
  · rw [jsonText, Layout.ofText_text, ← jsonText, hvalue]

theorem ways_agree_words :
    ofYaml (blockText [("null", [(7, ["y", "true"])]), ("noun", [(10, ["a_b"]), (9, ["x"])])]) =
        .ok (ofCalls [("noun", 9, ["x"]), ("null", 7, ["y", "true"]), ("noun", 10, ["a_b"])]) ∧
      ofText (jsonText [("noun", [(9, ["x"]), (10, ["a_b"])]), ("null", [(7, ["y", "true"])])]) =
        .ok (ofCalls [("noun", 9, ["x"]), ("null", 7, ["y", "true"]), ("noun", 10, ["a_b"])]) := by
  have h := @ways_agree [("null", [(7, ["y", "true"])]), ("noun", [(10, ["a_b"]), (9, ["x"])])]
    [("noun", [(9, ["x"]), (10, ["a_b"])]), ("null", [(7, ["y", "true"])])]
    [("noun", 9, ["x"]), ("null", 7, ["y", "true"]), ("noun", 10, ["a_b"])]
    ⟨⟨by decide, by decide, by decide⟩, by decide, by decide, by decide⟩
    ⟨⟨by decide, by decide, by decide⟩, by decide, by decide, by decide⟩ (by decide) (by decide)
  exact ⟨h.1, h.2.2.2⟩

end Readers

end Inflection.StudyPlan.Outline
