import Inflection.DescribedForm
import Inflection.PartOfSpeech
import Inflection.Proofs.Mapping

/-!
The forms that a rule makes are labelled by their positions, stored forms by their
descriptions. A word whose forms are stored under the descriptions of their
positions gets the same labels as by its rule, in whatever order they are stored
and whatever else is stored with them; only the plural has a name of its own.
-/

namespace Inflection

namespace Mapping

/-- The mapping with one name replaced by another. -/
def rename (mapping : Mapping) (old new : String) : Mapping :=
  match mapping[old]? with
  | some form => (mapping.erase old).insert new form
  | none => mapping

theorem getElem?_rename (mapping : Mapping) {old new : String} (hnew : mapping[new]? = none)
    (hne : old ≠ new) (name : String) : (mapping.rename old new)[name]? =
      if name = new then mapping[old]? else if name = old then none else mapping[name]? := by
  unfold rename
  cases hold : mapping[old]? with
  | none =>
    by_cases h : name = new
    · simp [h, hnew]
    · by_cases h' : name = old
      · simp [h', hne, hold]
      · simp [h, h']
  | some form =>
    simp only [Std.ExtTreeMap.getElem?_insert, Std.ExtTreeMap.getElem?_erase,
      Std.compare_eq_iff_eq, eq_comm (a := name)]

/-- To replace a name in a mapping is to replace it in the entries. -/
theorem rename_ofEntries {entries : List (String × String)} {old new : String}
    (hnew : new ∉ entries.map (·.1)) (hne : old ≠ new) : rename (ofEntries entries) old new =
      ofEntries (entries.map fun entry => (if entry.1 = old then new else entry.1, entry.2)) := by
  have hunused : ∀ entry ∈ entries, entry.1 ≠ new := fun entry hentry hname =>
    hnew (List.mem_map.2 ⟨entry, hentry, hname⟩)
  have hnone : (ofEntries entries)[new]? = none := by
    rw [getElem?_ofEntries, List.filter_eq_nil_iff.2 (by simpa using hunused)]
    rfl
  have hfound (name : String) (kept : String → Bool) (h : ∀ entry ∈ entries,
      decide ((if entry.1 = old then new else entry.1) = name) = kept entry.1) :
      (ofEntries (entries.map fun entry =>
        (if entry.1 = old then new else entry.1, entry.2)))[name]? =
          (entries.filter (kept ·.1)).getLast?.map (·.2) := by
    rw [getElem?_ofEntries, List.filter_map, List.getLast?_map, Option.map_map]
    exact congrArg (fun found : List (String × String) => found.getLast?.map (·.2))
      (List.filter_congr h)
  apply Std.ExtTreeMap.ext_getElem?
  intro name
  rw [getElem?_rename _ hnone hne]
  by_cases hname : name = new
  · rw [if_pos hname, hname, hfound new (· = old), getElem?_ofEntries]
    intro entry hentry
    by_cases h : entry.1 = old
    · simp [h]
    · simp [h, hunused entry hentry]
  · rw [if_neg hname]
    by_cases hname' : name = old
    · rw [if_pos hname', hname', hfound old fun _ => false]
      · simp
      · intro entry _
        by_cases h : entry.1 = old
        · simp [h, hne.symm]
        · simp [h]
    · rw [if_neg hname', hfound name (· = name), getElem?_ofEntries]
      intro entry _
      by_cases h : entry.1 = old
      · simp [h, Ne.symm hname, Ne.symm hname']
      · simp [h]

end Mapping

namespace PartOfSpeech

/-- The descriptions under which the forms at the labelled positions are stored. -/
def descriptions : PartOfSpeech → List (Nat × String)
  | noun =>
    [(0, "ед.ч."), (1, "ед.ч. членувано"), (2, "мн.ч."), (3, "мн.ч. членувано")]
  | masculineNoun =>
    [(0, "ед.ч."), (2, "ед.ч. пълен член"), (3, "мн.ч."), (4, "мн.ч. членувано"),
      (5, "бройна форма")]

end PartOfSpeech

/-- The forms at the labelled positions, each with its description. -/
def FormSet.described (set : FormSet) (part : PartOfSpeech) : List DescribedForm :=
  part.descriptions.filterMap fun (position, description) =>
    (set.get? position).map fun form => ⟨form, description⟩

namespace PartOfSpeech

/-- The name of the slot that the description of a slot's form stands for. -/
def storedName (slot : Slot) : String :=
  if slot.name = "plural_indefinite" then "pluralForm" else slot.name

/-- The descriptions stand for the slots at their positions. -/
theorem descriptions_slots (part : PartOfSpeech) :
    (part.descriptions.map fun (position, description) =>
      ((Description.slot? description).map Slot.name, position)) =
    part.slotTable.map fun (slot, position) => (some (storedName slot), position) := by
  cases part with
  | noun | masculineNoun => decide

theorem nodup_storedNames (part : PartOfSpeech) :
    (part.slotTable.map (storedName ·.1)).Nodup := by
  cases part with
  | noun | masculineNoun => decide

theorem pluralForm_not_mem_names (part : PartOfSpeech) :
    "pluralForm" ∉ part.slotTable.map (·.1.name) := by
  cases part with
  | noun | masculineNoun => decide

end PartOfSpeech

namespace DescribedForm

open PartOfSpeech (storedName)

/-- The name of the slot of a form and the form, if its description stands for a slot. -/
def named? (form : DescribedForm) : Option (String × String) :=
  (Description.slot? form.description).map fun slot => (slot.name, form.form)

/-- The stored forms make the entries of the labelled positions, with the names by which the
descriptions know the slots. -/
theorem filterMap_named?_described (set : FormSet) (part : PartOfSpeech) :
    (set.described part).filterMap named? = part.slotTable.filterMap fun (slot, position) =>
      (set.get? position).map (storedName slot, ·) := by
  have hrows := congrArg (List.filterMap fun row : Option String × Nat =>
    (set.get? row.2).bind fun form => row.1.map (·, form)) part.descriptions_slots
  rw [List.filterMap_map, List.filterMap_map] at hrows
  rw [FormSet.described, List.filterMap_filterMap]
  refine Eq.trans (List.filterMap_congr ?_) (hrows.trans (List.filterMap_congr ?_))
  · intro row _
    cases hform : set.get? row.1 with
    | none => simp [hform]
    | some form =>
      simp only [Function.comp_apply, hform, Option.map_some, Option.bind_some, Option.map_map]
      rfl
  · intro row _
    cases hform : set.get? row.2 with
    | none => simp [hform]
    | some form => simp [hform]

theorem slot?_eq_none {description : String}
    (h : description ∉ Description.definitions.map (·.1)) :
    Description.slot? description = none := by
  rw [Description.slot?, List.lookup_eq_none_iff]
  intro definition hdefinition
  rw [bne_iff_ne]
  intro heq
  exact h (List.mem_map.2 ⟨definition, List.mem_reverse.1 hdefinition, heq.symm⟩)

/-- Stored forms with the descriptions of their positions get the labels of these positions, in any
order and among any forms whose descriptions are not defined. What the positions call the indefinite
plural is the plural there. -/
theorem slots_eq_rename {set : FormSet} {part : PartOfSpeech} {forms others : List DescribedForm}
    (hforms : forms.Perm (set.described part ++ others))
    (hothers : ∀ form ∈ others, form.description ∉ Description.definitions.map (·.1)) :
    slots forms = Mapping.rename (set.slots part) "plural_indefinite" "pluralForm" := by
  have hentries := hforms.filterMap named?
  have hnone : others.filterMap named? = [] := by
    rw [List.filterMap_eq_nil_iff]
    intro form hform
    rw [named?, slot?_eq_none (hothers form hform)]
    rfl
  rw [List.filterMap_append, hnone, List.append_nil, filterMap_named?_described] at hentries
  have hdistinct : ((part.slotTable.filterMap fun (slot, position) =>
      (set.get? position).map (storedName slot, ·)).map (·.1)).Nodup :=
    Mapping.nodup_names_filterMap part.nodup_storedNames
  have hnew : "pluralForm" ∉ (part.slotTable.filterMap fun (slot, position) =>
      (set.get? position).map (slot.name, ·)).map (·.1) := by
    intro hmem
    obtain ⟨entry, hentry, hname⟩ := List.mem_map.1 hmem
    obtain ⟨row, hrow, hform⟩ := List.mem_filterMap.1 hentry
    obtain ⟨form, -, rfl⟩ := Option.map_eq_some_iff.1 hform
    exact part.pluralForm_not_mem_names (List.mem_map.2 ⟨row, hrow, hname⟩)
  calc slots forms
    _ = Mapping.ofEntries (part.slotTable.filterMap fun (slot, position) =>
        (set.get? position).map (storedName slot, ·)) :=
      (Mapping.ofEntries_perm hentries.symm hdistinct).symm
    _ = Mapping.rename (set.slots part) "plural_indefinite" "pluralForm" := by
      rw [FormSet.slots, Mapping.rename_ofEntries hnew (by decide), List.map_filterMap]
      simp only [Option.map_map]
      rfl

/-- A masculine noun without a definite plural, whose forms are stored in another order and with a
form whose description is not defined. -/
theorem slots_eq_rename_noun :
    slots [⟨"стола", "бройна форма"⟩, ⟨"столе", "звателна форма"⟩, ⟨"столове", "мн.ч."⟩,
      ⟨"стол", "ед.ч."⟩, ⟨"столът", "ед.ч. пълен член"⟩] =
    Mapping.rename (FormSet.slots ⟨"стол", [some "стол", some "стола", some "столът",
      some "столове", none, some "стола"]⟩ .masculineNoun) "plural_indefinite" "pluralForm" :=
  @slots_eq_rename _ _ _ [⟨"столе", "звателна форма"⟩] (by decide +kernel) (by decide +kernel)

end DescribedForm

end Inflection
