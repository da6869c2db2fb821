import Mathlib.Data.List.Dedup
import Inflection.Lexicon.Line

/-!
What a lexicon holds after lines have been added to it. Of the words with one id
the last counts, and every stored form counts, in the order in which they were
added.
-/

namespace Inflection.Lexicon

/-- The word that a line holds. -/
def Line.entry? : Line → Option WordEntry
  | .word entry => some entry
  | .form .. => none

/-- The stored form that a line holds, with the id of its word. -/
def Line.stored? : Line → Option (UInt64 × DescribedForm)
  | .word _ => none
  | .form wordId stored => some (wordId, stored)

def entries (lines : List Line) : List WordEntry :=
  lines.filterMap Line.entry?

def storedForms (lines : List Line) : List (UInt64 × DescribedForm) :=
  lines.filterMap Line.stored?

/-- Whether a lexicon holds what some lines add and nothing else. -/
structure Holds (lexicon : Lexicon) (lines : List Line) : Prop where
  word? : ∀ id, lexicon.word? id = ((entries lines).filter (·.id = id)).getLast?
  formsOf : ∀ id, lexicon.formsOf id = ((storedForms lines).filter (·.1 = id)).map (·.2)
  wordCount : lexicon.wordCount = ((entries lines).map (·.id)).dedup.length
  formCount : lexicon.formCount = (storedForms lines).length

variable {lexicon : Lexicon} {lines : List Line}

section Words

variable {entry : WordEntry}

theorem word?_insertWord (id : UInt64) :
    (lexicon.insertWord entry).word? id = if entry.id = id then some entry else lexicon.word? id := by
  simp only [word?, insertWord, Std.ExtTreeMap.getElem?_insert, Std.compare_eq_iff_eq]

theorem wordCount_insertWord :
    (lexicon.insertWord entry).wordCount =
      if (lexicon.word? entry.id).isSome then lexicon.wordCount else lexicon.wordCount + 1 := by
  rw [word?, ← Std.ExtTreeMap.contains_eq_isSome_getElem?]
  exact Std.ExtTreeMap.size_insert

end Words

section Forms

variable {id : UInt64} {form : DescribedForm}

theorem formsOf_insertForm (other : UInt64) :
    (lexicon.insertForm id form).formsOf other =
      lexicon.formsOf other ++ if id = other then [form] else [] := by
  simp only [formsOf, insertForm, Std.ExtTreeMap.getD_insert, Std.compare_eq_iff_eq]
  split
  · rename_i h
    rw [h]
  · rw [List.append_nil]

theorem nodup_toList {β : Type} (map : Std.ExtTreeMap UInt64 β) : map.toList.Nodup := by
  apply List.Nodup.of_map Prod.fst
  rw [Std.ExtTreeMap.map_fst_toList_eq_keys]
  exact Std.ExtTreeMap.nodup_keys

/-- The stored forms are those of one word and those of all others. -/
theorem formCount_eq (lexicon : Lexicon) (id : UInt64) :
    lexicon.formCount = (lexicon.formsOf id).length +
      formCount { lexicon with forms := lexicon.forms.erase id } := by
  have herased : ∀ forms, (id, forms) ∉ (lexicon.forms.erase id).toList := by
    intro forms
    rw [Std.ExtTreeMap.mem_toList_iff_getElem?_eq_some, Std.ExtTreeMap.getElem?_erase_self]
    exact nofun
  cases hforms : lexicon.forms[id]? with
  | none =>
    have hmap : lexicon.forms.erase id = lexicon.forms := by
      apply Std.ExtTreeMap.ext_getElem?
      intro other
      rw [Std.ExtTreeMap.getElem?_erase]
      split
      · rename_i h
        rw [← Std.compare_eq_iff_eq.1 h, hforms]
      · rfl
    rw [hmap, formsOf, Std.ExtTreeMap.getD_eq_getD_getElem?, hforms]
    exact (Nat.zero_add _).symm
  | some forms =>
    have hperm : lexicon.forms.toList.Perm ((id, forms) :: (lexicon.forms.erase id).toList) := by
      rw [List.perm_ext_iff_of_nodup (nodup_toList _)
        (List.nodup_cons.2 ⟨herased forms, nodup_toList _⟩)]
      intro ⟨other, otherForms⟩
      rw [List.mem_cons, Std.ExtTreeMap.mem_toList_iff_getElem?_eq_some,
        Std.ExtTreeMap.mem_toList_iff_getElem?_eq_some, Std.ExtTreeMap.getElem?_erase]
      split
      · rename_i h
        obtain rfl := Std.compare_eq_iff_eq.1 h
        simp [hforms, eq_comm]
      · rename_i h
        have hne : other ≠ id := fun heq => h (Std.compare_eq_iff_eq.2 heq.symm)
        simp [hne]
    have hlength := (hperm.flatMap_right (·.2)).length_eq
    rw [List.flatMap_cons, List.length_append] at hlength
    rw [formCount, hlength, formsOf, Std.ExtTreeMap.getD_eq_getD_getElem?, hforms]
    rfl

theorem formCount_insertForm :
    (lexicon.insertForm id form).formCount = lexicon.formCount + 1 := by
  have herase : (lexicon.insertForm id form).forms.erase id = lexicon.forms.erase id := by
    apply Std.ExtTreeMap.ext_getElem?
    intro other
    rw [Std.ExtTreeMap.getElem?_erase, Std.ExtTreeMap.getElem?_erase, insertForm,
      Std.ExtTreeMap.getElem?_insert]
    split
    · rfl
    · rfl
  have hlength : ((lexicon.insertForm id form).formsOf id).length = (lexicon.formsOf id).length + 1 := by
    rw [formsOf_insertForm, if_pos rfl, List.length_append]
    rfl
  rw [formCount_eq _ id, formCount_eq lexicon id, herase, hlength, Nat.add_right_comm]
  rfl

end Forms

theorem entries_append_word (lines : List Line) (entry : WordEntry) :
    entries (lines ++ [.word entry]) = entries lines ++ [entry] := by
  rw [entries, List.filterMap_append]
  rfl

theorem entries_append_form (lines : List Line) (id : UInt64) (form : DescribedForm) :
    entries (lines ++ [.form id form]) = entries lines := by
  rw [entries, List.filterMap_append]
  exact List.append_nil _

theorem storedForms_append_word (lines : List Line) (entry : WordEntry) :
    storedForms (lines ++ [.word entry]) = storedForms lines := by
  rw [storedForms, List.filterMap_append]
  exact List.append_nil _

theorem storedForms_append_form (lines : List Line) (id : UInt64) (form : DescribedForm) :
    storedForms (lines ++ [.form id form]) = storedForms lines ++ [(id, form)] := by
  rw [storedForms, List.filterMap_append]
  rfl

/-- Whether a word with an id is held is told by the words that were added. -/
theorem Holds.isSome_word? (h : lexicon.Holds lines) (id : UInt64) :
    (lexicon.word? id).isSome = true ↔ id ∈ (entries lines).map (·.id) := by
  rw [h.word?, List.getLast?_isSome, Ne, List.filter_eq_nil_iff, List.mem_map]
  simp

theorem Holds.insertWord (h : lexicon.Holds lines) (entry : WordEntry) :
    (lexicon.insertWord entry).Holds (lines ++ [.word entry]) where
  word? id := by
    rw [word?_insertWord, entries_append_word, List.filter_append, h.word?]
    by_cases hid : entry.id = id
    · simp [hid]
    · simp [hid]
  formsOf id := by
    rw [storedForms_append_word]
    exact h.formsOf id
  wordCount := by
    have hperm : (((entries lines).map (·.id)) ++ [entry.id]).Perm
        (entry.id :: (entries lines).map (·.id)) := List.perm_append_singleton _ _
    rw [wordCount_insertWord, entries_append_word, List.map_append, List.map_singleton,
      hperm.dedup.length_eq, h.wordCount]
    split
    · rename_i hsome
      rw [List.dedup_cons_of_mem ((h.isSome_word? entry.id).1 hsome)]
    · rename_i hnone
      rw [List.dedup_cons_of_notMem (mt (h.isSome_word? entry.id).2 hnone), List.length_cons]
  formCount := by
    rw [storedForms_append_word]
    exact h.formCount

theorem Holds.insertForm (h : lexicon.Holds lines) (id : UInt64) (form : DescribedForm) :
    (lexicon.insertForm id form).Holds (lines ++ [.form id form]) where
  word? other := by
    rw [entries_append_form]
    exact h.word? other
  formsOf other := by
    rw [formsOf_insertForm, storedForms_append_form, List.filter_append, List.map_append, h.formsOf]
    by_cases hid : id = other
    · simp [hid]
    · simp [hid]
  wordCount := by
    rw [entries_append_form]
    exact h.wordCount
  formCount := by
    rw [formCount_insertForm, storedForms_append_form, List.length_append, h.formCount]
    rfl

theorem holds_empty : Holds {} [] where
  word? _ := Std.ExtTreeMap.getElem?_empty
  formsOf _ := Std.ExtTreeMap.getD_empty
  wordCount := Std.ExtTreeMap.size_empty
  formCount := rfl

theorem Holds.add (h : lexicon.Holds lines) (line : Line) :
    (lexicon.add line).Holds (lines ++ [line]) := by
  cases line with
  | word entry => exact h.insertWord entry
  | form id form => exact h.insertForm id form

/-- What a lexicon holds grows by the lines that are added. -/
theorem Holds.foldl (h : lexicon.Holds lines) (added : List Line) :
    (added.foldl Lexicon.add lexicon).Holds (lines ++ added) := by
  induction added generalizing lexicon lines with
  | nil =>
    rw [List.append_nil]
    exact h
  | cons line added ih =>
    have hgrown := ih (h.add line)
    rw [List.append_assoc] at hgrown
    exact hgrown

end Inflection.Lexicon
