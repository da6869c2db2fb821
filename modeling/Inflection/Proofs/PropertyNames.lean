import Inflection.Unicode.Property

/-!
The names of character properties. A closing bracket counts in a name, and no
property has one in its name.
-/

namespace Inflection.Unicode

theorem mem_of_mem_splitOn {separator c : Char} {text part : List Char}
    (hpart : part ∈ text.splitOn separator) (hc : c ∈ part) : c ∈ text := by
  induction text generalizing part with
  | nil =>
    rw [List.splitOn_nil, List.mem_singleton] at hpart
    rwa [hpart] at hc
  | cons d text ih =>
    rw [List.splitOn_cons_eq_if_modifyHead] at hpart
    split at hpart
    · rcases List.mem_cons.1 hpart with rfl | hpart
      · contradiction
      · exact List.mem_cons_of_mem d (ih hpart hc)
    · obtain ⟨first, others, hsplit⟩ := List.exists_cons_of_ne_nil (List.splitOn_ne_nil separator text)
      rw [hsplit, List.modifyHead_cons] at hpart
      rcases List.mem_cons.1 hpart with rfl | hpart
      · rcases List.mem_cons.1 hc with rfl | hc
        · exact List.mem_cons_self
        · exact List.mem_cons_of_mem d (ih (hsplit ▸ List.mem_cons_self) hc)
      · exact List.mem_cons_of_mem d (ih (hsplit ▸ List.mem_cons_of_mem first hpart) hc)

namespace Table

/-- Whether the byte of a closing bracket is in no name of a table. -/
def isBracketFree (table : Table) : Bool :=
  table.all fun row => row.1.toByteArray.data.toList.all (· != 93)

theorem not_mem_of_isNamed {table : Table} (htable : table.isBracketFree) {name : String}
    {row : String × List String} (hrow : row ∈ table) (hname : isNamed name row) :
    ']' ∉ name.toList := by
  intro hmem
  have hbyte : 93 ∈ row.1.toByteArray.data.toList := by
    rw [← String.utf8Encode_toList, List.utf8Encode]
    simp only [List.data_toByteArray, List.mem_flatMap]
    exact ⟨']', mem_of_mem_splitOn (List.contains_iff_mem.1 hname) hmem, by decide⟩
  exact absurd (List.all_eq_true.1 (List.all_eq_true.1 htable row hrow) 93 hbyte) (by decide)

theorem not_mem_of_find? {table : Table} (htable : table.isBracketFree) {name : String}
    {members : CharSet} (h : table.find? name = some members) : ']' ∉ name.toList := by
  obtain ⟨row, hrow, -⟩ := Option.map_eq_some_iff.1 h
  exact not_mem_of_isNamed htable (List.mem_of_find?_eq_some hrow) (List.find?_some hrow)

end Table

namespace Property

theorem mem_withoutIs {name : List Char} (h : ']' ∈ name) : ']' ∈ withoutIs name := by
  unfold withoutIs
  split
  · rename_i i s rest
    split
    · rename_i hletters
      rcases List.mem_cons.1 h with rfl | h
      · exact absurd hletters.1 (by decide)
      · rcases List.mem_cons.1 h with rfl | h
        · exact absurd hletters.2 (by decide)
        · exact h
    · exact h
  · exact h

theorem mem_normalize {name : List Char} (h : ']' ∈ name) : ']' ∈ (normalize name).toList := by
  have hshort : ']' ∈ (String.ofList (((withoutIs name).filter counts).map Char.toLower)).toList := by
    rw [String.toList_ofList]
    exact List.mem_map.2 ⟨']', List.mem_filter.2 ⟨mem_withoutIs h, by decide⟩, by decide⟩
  unfold normalize
  rw [if_neg]
  · exact hshort
  · rintro ⟨hc, -⟩
    rw [hc] at hshort
    exact absurd hshort (by decide)

theorem isBracketFree_category : GeneralCategory.table.isBracketFree := by decide +kernel

theorem isBracketFree_script : Script.table.isBracketFree := by decide +kernel

theorem not_mem_of_category? {name : String} {members : CharSet}
    (h : category? name = some members) : ']' ∉ name.toList := by
  unfold category? at h
  split at h
  · decide
  · decide
  · decide
  · exact Table.not_mem_of_find? isBracketFree_category h

theorem not_mem_of_age? {version : String} {members : CharSet} (h : age? version = some members) :
    ']' ∉ version.toList := by
  unfold age? at h
  simp only at h
  split at h
  · contradiction
  · rename_i row others hlater
    have hmem : row ∈ Age.table := (List.dropWhile_suffix _).subset (hlater ▸ List.mem_cons_self)
    have hnamed := List.head?_dropWhile_not (fun row => !Table.isNamed version row) Age.table
    rw [hlater] at hnamed
    exact Table.not_mem_of_isNamed (by decide +kernel) hmem (by simpa using hnamed)

theorem not_mem_of_ofName? {name : List Char} {members : CharSet} (h : ofName? name = some members) :
    ']' ∉ name := by
  intro hmem
  have hkey := mem_normalize hmem
  unfold ofName? at h
  cases hbinary : BinaryProperty.table.find? (normalize name) with
  | some s => exact Table.not_mem_of_find? (by decide +kernel) hbinary hkey
  | none =>
    cases hcategory : category? (normalize name) with
    | some s => exact not_mem_of_category? hcategory hkey
    | none =>
      simp only [hbinary, hcategory, Option.orElse_eq_orElse, Option.orElse_none] at h
      exact Table.not_mem_of_find? isBracketFree_script h hkey

theorem not_mem_of_ofValue? {name value : List Char} {members : CharSet}
    (h : ofValue? name value = some members) : ']' ∉ name ∧ ']' ∉ value := by
  unfold ofValue? at h
  simp only at h
  constructor
  · intro hmem
    have hkey := mem_normalize hmem
    split at h
    case h_14 => contradiction
    all_goals
      rename_i heq
      rw [heq] at hkey
      exact absurd hkey (by decide)
  · intro hmem
    have hvalue := mem_normalize hmem
    split at h
    case h_1 | h_2 => exact not_mem_of_category? h hvalue
    case h_3 | h_4 => exact Table.not_mem_of_find? isBracketFree_script h hvalue
    case h_7 => exact not_mem_of_age? h hvalue
    case h_14 => contradiction
    all_goals exact Table.not_mem_of_find? (by decide +kernel) h hvalue

end Property

end Inflection.Unicode
