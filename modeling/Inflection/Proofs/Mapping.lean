import Mathlib.Data.List.Induction
import Mathlib.Data.List.Nodup
import Inflection.Mapping

/-!
What is found in a map that is made of entries. Under each name the last entry
of this name is found, and a map is made again of what it holds.
-/

namespace Inflection

section Last

variable {β : Type} {p : β → Prop} {list : List β} {a b : β}

/-- Whether an element is the last of a list with a property. -/
def IsLast (p : β → Prop) (list : List β) (a : β) : Prop :=
  ∃ before after, list = before ++ a :: after ∧ p a ∧ ∀ b ∈ after, ¬ p b

theorem not_isLast_nil : ¬ IsLast p [] a := by
  rintro ⟨before, after, hlist, -⟩
  exact List.append_ne_nil_of_right_ne_nil before (List.cons_ne_nil a after) hlist.symm

/-- An element that is added is the last if it has the property, and does not count if not. -/
theorem isLast_concat : IsLast p (list ++ [b]) a ↔ p b ∧ a = b ∨ ¬ p b ∧ IsLast p list a := by
  constructor
  · rintro ⟨before, after, hlist, ha, hafter⟩
    rcases List.eq_nil_or_concat' after with rfl | ⟨after, c, rfl⟩
    · obtain ⟨-, rfl⟩ := List.append_singleton_inj.1 hlist
      exact .inl ⟨ha, rfl⟩
    · rw [← List.cons_append, ← List.append_assoc, List.append_singleton_inj] at hlist
      obtain ⟨rfl, rfl⟩ := hlist
      rw [List.forall_mem_append, List.forall_mem_singleton] at hafter
      exact .inr ⟨hafter.2, before, after, rfl, ha, hafter.1⟩
  · rintro (⟨hb, rfl⟩ | ⟨hb, before, after, rfl, ha, hafter⟩)
    · exact ⟨list, [], rfl, hb, nofun⟩
    · refine ⟨before, after ++ [b], by simp, ha, ?_⟩
      rw [List.forall_mem_append, List.forall_mem_singleton]
      exact ⟨hafter, hb⟩

theorem exists_isLast_iff : (∃ a, IsLast p list a) ↔ ∃ a ∈ list, p a := by
  induction list using List.reverseRecOn with
  | nil => simp [not_isLast_nil]
  | append_singleton list b ih =>
    by_cases hb : p b
    · simp [isLast_concat, hb]
    · simp [isLast_concat, hb, ih]

end Last

namespace Mapping

variable {α : Type} {entries : List (String × α)}

theorem ofEntries_concat (entries : List (String × α)) (entry : String × α) :
    ofEntries (entries ++ [entry]) = (ofEntries entries).insert entry.1 entry.2 := by
  rw [ofEntries, List.foldl_append]
  rfl

theorem getElem?_ofEntries (entries : List (String × α)) (name : String) :
    (ofEntries entries)[name]? = (entries.filter (·.1 = name)).getLast?.map (·.2) := by
  induction entries using List.reverseRecOn with
  | nil => exact Std.ExtTreeMap.getElem?_empty
  | append_singleton entries entry ih =>
    rw [ofEntries_concat, Std.ExtTreeMap.getElem?_insert, List.filter_append, ih]
    by_cases hname : entry.1 = name
    · rw [if_pos (Std.compare_eq_iff_eq.2 hname)]
      simp [hname]
    · rw [if_neg (mt Std.compare_eq_iff_eq.1 hname)]
      simp [hname]

/-- The entries of a second list override those of the first. -/
theorem ofEntries_append (entries others : List (String × α)) :
    ofEntries (entries ++ others) = ofEntries entries ∪ ofEntries others := by
  apply Std.ExtTreeMap.ext_getElem?
  intro name
  rw [Std.ExtTreeMap.getElem?_union, getElem?_ofEntries, getElem?_ofEntries, getElem?_ofEntries,
    List.filter_append, List.getLast?_append, Option.map_or]

/-- If no two entries have one name, each is found under its name. -/
theorem getElem?_ofEntries_eq_some_iff (hdistinct : (entries.map (·.1)).Nodup) {name : String}
    {a : α} : (ofEntries entries)[name]? = some a ↔ (name, a) ∈ entries := by
  rw [getElem?_ofEntries, Option.map_eq_some_iff]
  constructor
  · rintro ⟨entry, hlast, rfl⟩
    obtain ⟨hmem, hname⟩ := List.mem_filter.1 (List.mem_of_getLast? hlast)
    rwa [← of_decide_eq_true hname]
  · intro hmem
    have hkept : (name, a) ∈ entries.filter (·.1 = name) := List.mem_filter.2 ⟨hmem, by simp⟩
    obtain ⟨entry, hlast⟩ := Option.isSome_iff_exists.1
      (List.getLast?_isSome.2 (List.ne_nil_of_mem hkept))
    obtain ⟨hentry, hname⟩ := List.mem_filter.1 (List.mem_of_getLast? hlast)
    have hsame : entry = (name, a) :=
      List.inj_on_of_nodup_map hdistinct hentry hmem (of_decide_eq_true hname)
    exact ⟨entry, hlast, by rw [hsame]⟩

section Insertion

variable {map : Std.ExtTreeMap String α} {name name' : String} {a b : α}

theorem getElem?_insert (map : Std.ExtTreeMap String α) (name : String) (a : α) (other : String) :
    (map.insert name a)[other]? = if name = other then some a else map[other]? := by
  rw [Std.ExtTreeMap.getElem?_insert]
  simp only [Std.compare_eq_iff_eq]

theorem insert_insert (map : Std.ExtTreeMap String α) (name : String) (a b : α) :
    (map.insert name a).insert name b = map.insert name b := by
  apply Std.ExtTreeMap.ext_getElem?
  intro other
  simp only [getElem?_insert]
  split
  · rfl
  · rfl

theorem insert_comm (h : name ≠ name') :
    (map.insert name a).insert name' b = (map.insert name' b).insert name a := by
  apply Std.ExtTreeMap.ext_getElem?
  intro other
  simp only [getElem?_insert]
  split
  · rename_i hother
    rw [if_neg (hother ▸ h)]
  · rfl

end Insertion

section Tables

variable {β : Type} {table : List β} {name : β → String} {value? : β → Option α}

theorem nodup_names_filterMap (hdistinct : (table.map name).Nodup) :
    ((table.filterMap fun b => (value? b).map (name b, ·)).map (·.1)).Nodup := by
  refine hdistinct.sublist ?_
  clear hdistinct
  induction table with
  | nil => exact List.Sublist.refl []
  | cons b table ih =>
    rw [List.filterMap_cons, List.map_cons]
    cases value? b with
    | none => exact ih.cons (name b)
    | some a => exact ih.cons_cons (name b)

/-- Entries with distinct names, of which some may be without a value. -/
theorem getElem?_ofEntries_filterMap (hdistinct : (table.map name).Nodup) {key : String} {a : α} :
    (ofEntries (table.filterMap fun b => (value? b).map (name b, ·)))[key]? = some a ↔
      ∃ b ∈ table, name b = key ∧ value? b = some a := by
  rw [getElem?_ofEntries_eq_some_iff (nodup_names_filterMap hdistinct)]
  simp only [List.mem_filterMap, Option.map_eq_some_iff, Prod.mk.injEq]
  constructor
  · intro h
    obtain ⟨b, hb, _, hvalue, hname, rfl⟩ := h
    exact ⟨b, hb, hname, hvalue⟩
  · intro h
    obtain ⟨b, hb, hname, hvalue⟩ := h
    exact ⟨b, hb, a, hvalue, hname, rfl⟩

end Tables

/-- The names of a map are in the order of their code points. -/
theorem pairwise_keys (map : Std.ExtTreeMap String α) : map.keys.Pairwise (· < ·) := by
  have hordered : map.keys.Pairwise fun name name' => compare name name' = .lt :=
    Std.ExtTreeMap.ordered_keys
  exact hordered.imp compareOfLessAndEq_eq_lt.1

/-- The order of entries with distinct names does not matter. -/
theorem ofEntries_perm {others : List (String × α)} (h : entries.Perm others)
    (hdistinct : (entries.map (·.1)).Nodup) : ofEntries entries = ofEntries others := by
  have hdistinct' : (others.map (·.1)).Nodup := (h.map (·.1)).nodup_iff.1 hdistinct
  apply Std.ExtTreeMap.ext_getElem?
  intro name
  apply Option.ext
  intro a
  rw [getElem?_ofEntries_eq_some_iff hdistinct, getElem?_ofEntries_eq_some_iff hdistinct',
    h.mem_iff]

/-- What is found under some names: those of them that are in the map, each with its value. -/
theorem filterMap_getElem?_eq_iff {map : Std.ExtTreeMap String α} {names : List String} :
    names.filterMap (fun name => map[name]?.map (name, ·)) = entries ↔
      entries.map (·.1) = names.filter (· ∈ map) ∧
        ∀ entry ∈ entries, map[entry.1]? = some entry.2 := by
  induction names generalizing entries with
  | nil => cases entries <;> simp
  | cons name names ih =>
    cases hvalue : map[name]? with
    | none =>
      have hname : name ∉ map := by simp [Std.ExtTreeMap.mem_iff_isSome_getElem?, hvalue]
      rw [List.filterMap_cons_none (by rw [hvalue]; rfl), List.filter_cons_of_neg (by simpa), ih]
    | some a =>
      have hname : name ∈ map := by simp [Std.ExtTreeMap.mem_iff_isSome_getElem?, hvalue]
      rw [List.filterMap_cons_some (by rw [hvalue]; rfl), List.filter_cons_of_pos (by simpa)]
      cases entries with
      | nil => simp
      | cons entry entries =>
        obtain ⟨found, b⟩ := entry
        simp only [List.cons.injEq, List.map_cons, List.forall_mem_cons, Prod.mk.injEq, ih]
        constructor
        · rintro ⟨⟨rfl, rfl⟩, hnames, hvalues⟩
          exact ⟨⟨rfl, hnames⟩, hvalue, hvalues⟩
        · rintro ⟨⟨rfl, hnames⟩, hfound, hvalues⟩
          exact ⟨⟨rfl, Option.some.inj (hvalue.symm.trans hfound)⟩, hnames, hvalues⟩

theorem nodup_names_toList (map : Std.ExtTreeMap String α) : (map.toList.map (·.1)).Nodup := by
  rw [Std.ExtTreeMap.map_fst_toList_eq_keys]
  exact Std.ExtTreeMap.nodup_keys

theorem ofEntries_toList (map : Std.ExtTreeMap String α) : ofEntries map.toList = map := by
  apply Std.ExtTreeMap.ext_getElem?
  intro name
  apply Option.ext
  intro a
  rw [getElem?_ofEntries_eq_some_iff (nodup_names_toList map),
    Std.ExtTreeMap.mem_toList_iff_getElem?_eq_some]

end Mapping

end Inflection
