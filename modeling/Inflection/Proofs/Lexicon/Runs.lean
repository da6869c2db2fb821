import Inflection.Proofs.Derivation
import Inflection.Proofs.Lexicon.Dump

/-!
Runs of operations on a lexicon, from the empty one or from a dump. What is found
under an id depends on what was added under this id alone, so that two runs that
agree on it cannot be told apart there, however much else was added.
-/

namespace Inflection.Lexicon

/-- The word that was added last of those with an id. -/
def lastWord? (lines : List Line) (id : UInt64) : Option WordEntry :=
  ((entries lines).filter (·.id = id)).getLast?

/-- The stored forms that were added for an id, in their order. -/
def formsAdded (lines : List Line) (id : UInt64) : List DescribedForm :=
  ((storedForms lines).filter (·.1 = id)).map (·.2)

/-- The lexicons that can be reached, each with what was added on the way. What is loaded from a
dump was added by its lines. -/
inductive Run : Lexicon → List Line → Prop where
  | empty : Run {} []
  | loaded {bytes : List UInt8} {cut : List (List UInt8)} {contents : List (Option Line)}
      {lexicon : Lexicon} (hcut : Dump.CutInto bytes cut)
      (hcontents : List.Forall₂ Dump.Reads cut contents) (hload : ofDump bytes = .ok lexicon) :
      Run lexicon (contents.filterMap id)
  | insertWord {lexicon : Lexicon} {lines : List Line} (hrun : Run lexicon lines)
      (entry : WordEntry) : Run (lexicon.insertWord entry) (lines ++ [.word entry])
  | insertForm {lexicon : Lexicon} {lines : List Line} (hrun : Run lexicon lines) (id : UInt64)
      (form : DescribedForm) : Run (lexicon.insertForm id form) (lines ++ [.form id form])

/-- A dump whose lines can be read is loaded as what they add. -/
theorem ofDump_of_cutInto {bytes : List UInt8} {cut : List (List UInt8)}
    {contents : List (Option Line)} (hcut : Dump.CutInto bytes cut)
    (hcontents : List.Forall₂ Dump.Reads cut contents) :
    ofDump bytes = .ok ((contents.filterMap id).foldl Lexicon.add {}) := by
  rw [Dump.cutInto_iff.1 hcut] at hcontents
  exact Dump.addLines_of_forall₂ hcontents

/-- Every dump that is loaded begins a run. -/
theorem exists_run_of_ofDump {bytes : List UInt8} {lexicon : Lexicon}
    (hload : ofDump bytes = .ok lexicon) : ∃ lines, Run lexicon lines := by
  have hreads := Dump.exists_reads_of_addLines hload
  obtain ⟨contents, hcontents⟩ := Dump.exists_contents hreads
  exact ⟨_, .loaded (Dump.cutInto_iff.2 rfl) hcontents hload⟩

section Run

variable {lexicon : Lexicon} {lines : List Line}

/-- Whatever the run, a lexicon holds what was added. -/
theorem Run.holds (h : Run lexicon lines) : lexicon.Holds lines := by
  induction h with
  | empty => exact holds_empty
  | loaded hcut hcontents hload =>
    rw [ofDump_of_cutInto hcut hcontents] at hload
    rw [← Except.ok.inj hload]
    exact holds_empty.foldl _
  | insertWord _ entry ih => exact ih.insertWord entry
  | insertForm _ id form ih => exact ih.insertForm id form

theorem id_of_lastWord? {id : UInt64} {entry : WordEntry} (h : lastWord? lines id = some entry) :
    entry.id = id := by
  have hmem := List.mem_of_getLast? h
  exact of_decide_eq_true (List.mem_filter.1 hmem).2

/-- What is read from the stored forms of a word never fails. -/
theorem Holds.described_eq (h : lexicon.Holds lines) (id : UInt64) :
    lexicon.dictionary.describedSlots id = .ok (DescribedForm.slots (formsAdded lines id)) ∧
      lexicon.dictionary.irregularForms id =
        .ok (DescribedForm.irregularForms (formsAdded lines id)) ∧
      lexicon.dictionary.irregularParticiples id =
        .ok (DescribedForm.irregularParticiples (formsAdded lines id)) := by
  have hforms : lexicon.formsOf id = formsAdded lines id := h.formsOf id
  rw [← hforms]
  exact ⟨rfl, rfl, rfl⟩

end Run

/-- What a lexicon holds after any run, and what two runs have in common at an id. The words that
were added last decide what is derived, and the stored forms what is read from them. -/
theorem store_law {left right : Lexicon} {lines others : List Line} (hleft : Run left lines)
    (hright : Run right others) (id : UInt64) :
    left.Holds lines ∧ (∀ entry, left.word? id = some entry → entry.id = id) ∧
      (lastWord? lines id = lastWord? others id →
        left.dictionary.derive id = right.dictionary.derive id) ∧
      (formsAdded lines id = formsAdded others id → ∃ slots forms participles,
        (left.dictionary.describedSlots id = .ok slots ∧
          right.dictionary.describedSlots id = .ok slots) ∧
        (left.dictionary.irregularForms id = .ok forms ∧
          right.dictionary.irregularForms id = .ok forms) ∧
        left.dictionary.irregularParticiples id = .ok participles ∧
          right.dictionary.irregularParticiples id = .ok participles) := by
  refine ⟨hleft.holds, ?_, ?_, ?_⟩
  · intro entry hentry
    rw [hleft.holds.word? id] at hentry
    exact id_of_lastWord? hentry
  · intro hlast
    have hword : left.word? id = right.word? id := by
      rw [hleft.holds.word? id, hright.holds.word? id]
      exact hlast
    exact Dictionary.derive_eq_of_word? (congrArg Except.ok hword)
  · intro hforms
    obtain ⟨hslots, hirregular, hparticiples⟩ := hleft.holds.described_eq id
    obtain ⟨hslots', hirregular', hparticiples'⟩ := hright.holds.described_eq id
    rw [← hforms] at hslots' hirregular' hparticiples'
    exact ⟨_, _, _, ⟨hslots, hslots'⟩, ⟨hirregular, hirregular'⟩, hparticiples, hparticiples'⟩

/-- A dump and other words after it, and the same word and form added by themselves. -/
theorem store_law_table : ∃ left lines right others, Run left lines ∧ Run right others ∧
    lines = [.word ⟨7, "маса", 75, "noun_female", "а\nа\nата"⟩, .form 7 ⟨"маси", "мн.ч."⟩,
      .word ⟨8, "стол", 1, "noun_male", "0\n0"⟩, .form 8 ⟨"столове", "мн.ч."⟩] ∧
    others = [.form 7 ⟨"маси", "мн.ч."⟩, .word ⟨7, "маса", 1, "noun_male", ""⟩,
      .word ⟨7, "маса", 75, "noun_female", "а\nа\nата"⟩] ∧
    left.Holds lines ∧ left.dictionary.derive 7 = right.dictionary.derive 7 ∧
      ∃ slots, left.dictionary.describedSlots 7 = .ok slots ∧
        right.dictionary.describedSlots 7 = .ok slots := by
  have hword : Dump.Reads
      "[\"word\",7,\"маса\",75,\"noun_female\",\"а\\nа\\nата\"]".toUTF8.toList
      (some (.word ⟨7, "маса", 75, "noun_female", "а\nа\nата"⟩)) :=
    (@Dump.readLine_eq_ok_iff 1 _ _).1 (by decide +kernel)
  have hblank : Dump.Reads [] none := (@Dump.readLine_eq_ok_iff 2 _ _).1 (by decide +kernel)
  have hform : Dump.Reads "[\"form\",7,\"маси\",\"мн.ч.\"]".toUTF8.toList
      (some (.form 7 ⟨"маси", "мн.ч."⟩)) :=
    (@Dump.readLine_eq_ok_iff 3 _ _).1 (by decide +kernel)
  have hcontents := List.Forall₂.cons hword (.cons hblank (.cons hform .nil))
  have hlines : Dump.lines
      ("[\"word\",7,\"маса\",75,\"noun_female\",\"а\\nа\\nата\"]\r\n\n" ++
        "[\"form\",7,\"маси\",\"мн.ч.\"]").toUTF8.toList =
        ["[\"word\",7,\"маса\",75,\"noun_female\",\"а\\nа\\nата\"]".toUTF8.toList, [],
          "[\"form\",7,\"маси\",\"мн.ч.\"]".toUTF8.toList] := by
    decide +kernel
  have hcut := Dump.cutInto_iff.2 hlines.symm
  have hleft := ((Run.loaded hcut hcontents (ofDump_of_cutInto hcut hcontents)).insertWord
    ⟨8, "стол", 1, "noun_male", "0\n0"⟩).insertForm 8 ⟨"столове", "мн.ч."⟩
  have hright := ((Run.empty.insertForm 7 ⟨"маси", "мн.ч."⟩).insertWord
    ⟨7, "маса", 1, "noun_male", ""⟩).insertWord ⟨7, "маса", 75, "noun_female", "а\nа\nата"⟩
  obtain ⟨hholds, -, hderive, hforms⟩ := store_law hleft hright 7
  obtain ⟨slots, -, -, hslots, -⟩ := hforms (by decide)
  exact ⟨_, _, _, _, hleft, hright, rfl, rfl, hholds, hderive (by decide), slots, hslots⟩

end Inflection.Lexicon
