import Inflection.DescribedForm
import Inflection.Proofs.Mapping

/-!
Stored forms are labelled by their descriptions, where the later one counts twice
over: of two definitions of a description, and of two forms for one slot. The labels
of two lists together are those of the first, overridden by those of the second.
-/

namespace Inflection

namespace Description

/-- Whether a description stands for a slot, which is that of its last definition. -/
def StandsFor (description : String) (slot : Slot) : Prop :=
  IsLast (·.1 = description) definitions (description, slot)

theorem slot?_eq_some_iff {description : String} {slot : Slot} :
    slot? description = some slot ↔ StandsFor description slot := by
  rw [slot?, List.lookup_eq_some_iff]
  constructor
  · rintro ⟨after, before, hreverse, hafter⟩
    have hdefinitions : definitions = before.reverse ++ (description, slot) :: after.reverse := by
      rw [← List.reverse_reverse definitions, hreverse]
      simp
    refine ⟨_, _, hdefinitions, rfl, ?_⟩
    intro definition hdefinition
    exact Ne.symm (bne_iff_ne.1 (hafter definition (List.mem_reverse.1 hdefinition)))
  · rintro ⟨before, after, hdefinitions, -, hafter⟩
    refine ⟨after.reverse, before.reverse, by simp [hdefinitions], ?_⟩
    intro definition hdefinition
    exact bne_iff_ne.2 (Ne.symm (hafter definition (List.mem_reverse.1 hdefinition)))

/-- The indefinite plural has no description of its own, since that of the plural is defined
again. -/
theorem not_standsFor_pluralIndefinite (description : String) :
    ¬ StandsFor description .pluralIndefinite := by
  intro h
  have hdefined : ∀ definition ∈ definitions, slot? definition.1 ≠ some .pluralIndefinite := by
    decide
  have hslot := slot?_eq_some_iff.2 h
  obtain ⟨before, after, hdefinitions, -⟩ := h
  exact hdefined (description, .pluralIndefinite) (by simp [hdefinitions]) hslot

end Description

namespace DescribedForm

open Description (StandsFor slot? slot?_eq_some_iff)

/-- Whether the description of a stored form stands for the slot of a name. -/
def IsNamed (stored : DescribedForm) (name : String) : Prop :=
  ∃ slot, StandsFor stored.description slot ∧ slot.name = name

section Labels

variable {forms : List DescribedForm} {stored : DescribedForm} {name form : String}

theorem isNamed_of_slot? {slot : Slot} (h : slot? stored.description = some slot) :
    stored.IsNamed name ↔ slot.name = name := by
  constructor
  · rintro ⟨slot', hstands, hname⟩
    obtain rfl := Option.some.inj (h.symm.trans (slot?_eq_some_iff.2 hstands))
    exact hname
  · intro hname
    exact ⟨slot, slot?_eq_some_iff.1 h, hname⟩

theorem not_isNamed_of_slot? (h : slot? stored.description = none) : ¬ stored.IsNamed name := by
  rintro ⟨slot, hstands, -⟩
  rw [slot?_eq_some_iff.2 hstands] at h
  contradiction

/-- A form that is added gets its label, and no other label is changed. -/
theorem getElem?_slots_concat :
    (slots (forms ++ [stored]))[name]? = some form ↔
      stored.IsNamed name ∧ stored.form = form ∨
        ¬ stored.IsNamed name ∧ (slots forms)[name]? = some form := by
  rw [slots, List.filterMap_append, List.filterMap_cons, List.filterMap_nil]
  cases hslot : slot? stored.description with
  | none =>
    have hname : ¬ stored.IsNamed name := not_isNamed_of_slot? hslot
    simp [hname, slots]
  | some slot =>
    rw [Option.map_some, Mapping.ofEntries_concat, Mapping.getElem?_insert, isNamed_of_slot? hslot]
    by_cases hname : slot.name = name
    · simp [hname]
    · simp [hname, slots]

/-- Under the name of a slot is the last of the forms for this slot. -/
theorem getElem?_slots_eq_some_iff : (slots forms)[name]? = some form ↔
    ∃ stored, IsLast (·.IsNamed name) forms stored ∧ stored.form = form := by
  induction forms using List.reverseRecOn with
  | nil =>
    rw [slots, List.filterMap_nil, Mapping.ofEntries, List.foldl_nil, Std.ExtTreeMap.getElem?_empty]
    simp [not_isLast_nil]
  | append_singleton forms stored ih =>
    rw [getElem?_slots_concat, ih]
    simp only [isLast_concat]
    by_cases hname : stored.IsNamed name
    · simp [hname]
    · simp [hname]

theorem mem_slots_iff : name ∈ slots forms ↔ ∃ stored ∈ forms, stored.IsNamed name := by
  rw [Std.ExtTreeMap.mem_iff_isSome_getElem?, Option.isSome_iff_exists, ← exists_isLast_iff]
  simp [getElem?_slots_eq_some_iff]

/-- To label two lists together is to override the labels of the first by those of the second. -/
theorem slots_append (forms others : List DescribedForm) :
    slots (forms ++ others) = slots forms ∪ slots others := by
  rw [slots, List.filterMap_append, Mapping.ofEntries_append]
  rfl

/-- Two forms that are not for one slot can be stored in either order. -/
theorem slots_pair_comm {first second : DescribedForm}
    (h : ∀ slot, ¬ (StandsFor first.description slot ∧ StandsFor second.description slot)) :
    slots [first, second] = slots [second, first] := by
  simp only [slots, List.filterMap_cons, List.filterMap_nil]
  cases hfirst : slot? first.description with
  | none => rfl
  | some slot =>
    cases hsecond : slot? second.description with
    | none => rfl
    | some slot' =>
      have hne : slot.name ≠ slot'.name := by
        intro hname
        obtain rfl := Slot.name_injective hname
        exact h slot ⟨slot?_eq_some_iff.1 hfirst, slot?_eq_some_iff.1 hsecond⟩
      exact Mapping.insert_comm hne

end Labels

/-- The labels of stored forms. Under the name of a slot is the last of the forms whose descriptions
stand for it, and there is no other name, so that none is that of the indefinite plural. Labels of
further forms override those that are there, and two neighbours can change places unless they are
for one slot. -/
theorem slots_last_wins (forms : List DescribedForm) :
    (∀ name form, (slots forms)[name]? = some form ↔
      ∃ stored, IsLast (·.IsNamed name) forms stored ∧ stored.form = form) ∧
    (∀ name, name ∈ slots forms ↔ ∃ stored ∈ forms, stored.IsNamed name) ∧
    "plural_indefinite" ∉ slots forms ∧
    (∀ others, slots (forms ++ others) = slots forms ∪ slots others) ∧
    ∀ before first second after, forms = before ++ first :: second :: after →
      (∀ slot, ¬ (StandsFor first.description slot ∧ StandsFor second.description slot)) →
        slots (before ++ second :: first :: after) = slots forms := by
  refine ⟨fun _ _ => getElem?_slots_eq_some_iff, fun _ => mem_slots_iff, ?_, slots_append forms, ?_⟩
  · rw [mem_slots_iff]
    rintro ⟨stored, -, slot, hstands, hname⟩
    obtain rfl : slot = .pluralIndefinite := Slot.name_injective hname
    exact Description.not_standsFor_pluralIndefinite stored.description hstands
  · rintro before first second after rfl h
    calc slots (before ++ second :: first :: after)
      _ = slots before ∪ (slots [second, first] ∪ slots after) := by
        rw [← slots_append, ← slots_append]
        rfl
      _ = slots before ∪ (slots [first, second] ∪ slots after) := by rw [slots_pair_comm h]
      _ = slots (before ++ first :: second :: after) := by
        rw [← slots_append, ← slots_append]
        rfl

end DescribedForm

end Inflection
