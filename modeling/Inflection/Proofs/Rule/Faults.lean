import Inflection.Proofs.Rule.Ending
import Inflection.Proofs.Rule.Tokens

/-!
What is wrong with the parts of a rule text. An ending is refused for a bracket
that opens no class or for a pattern that is none, and replacements for the
first that refers to more characters than are kept.
-/

namespace Inflection

namespace Rule

namespace Ending

/-- Whether an ending is made of items up to a bracket that does not open a class, after which
`rest` comes. -/
def BreaksBefore (ending : List Char) (rest : List Char) : Prop :=
  ∃ items : List Item, (∀ item ∈ items, item.IsProper) ∧
    ending = items.flatMap Item.text ++ '[' :: rest

theorem BreaksBefore.cons {ending rest : List Char} {item : Item} (hitem : item.IsProper)
    (h : BreaksBefore ending rest) : BreaksBefore (item.text ++ ending) rest := by
  obtain ⟨items, hproper, rfl⟩ := h
  refine ⟨item :: items, ?_, ?_⟩
  · intro x hx
    rcases List.mem_cons.1 hx with rfl | hx
    · exact hitem
    · exact hproper x hx
  · rw [List.flatMap_cons, List.append_assoc]

/-- An ending that is not read has a bracket that no closing bracket follows, or that one follows at
once. -/
theorem breaksBefore_of_itemsFrom {ending : String} {state : Option (List Char)} {text : List Char}
    {fault : Fault} (hstate : ∀ read ∈ state, ']' ∉ read)
    (h : itemsFrom ending state text = .error fault) :
    ∃ rest, BreaksBefore (openText state ++ text) rest ∧
      (']' ∉ rest ∧ fault = .unterminatedClass ending ∨
        rest.head? = some ']' ∧ fault = .emptyClass ending) := by
  fun_induction itemsFrom ending state text with
  | case1 => contradiction
  | case2 rest ih => exact ih (by simp) h
  | case3 c rest hc ih =>
    obtain ⟨left, hbreaks, hfault⟩ := ih hstate (map_eq_error_iff.1 h)
    have hitem : (Item.literal c).IsProper := hc
    exact ⟨left, hbreaks.cons hitem, hfault⟩
  | case4 read =>
    obtain rfl := Except.error.inj h
    have hread : ']' ∉ read.reverse := by simpa using hstate
    refine ⟨read.reverse, ⟨[], by simp, ?_⟩, .inl ⟨hread, rfl⟩⟩
    rw [List.append_nil]
    rfl
  | case5 read c rest hc ih =>
    have hread : ']' ∉ c :: read := by simpa [Ne.symm hc] using hstate
    have hopen : openText (some read) ++ c :: rest = openText (some (c :: read)) ++ rest := by
      simp [openText]
    rw [hopen]
    exact ih (by simpa using hread) h
  | case6 c rest hc =>
    obtain rfl := Except.error.inj h
    obtain rfl := Decidable.not_not.1 hc
    exact ⟨']' :: rest, ⟨[], by simp, rfl⟩, .inr ⟨rfl, rfl⟩⟩
  | case7 read c rest hc hempty ih =>
    obtain ⟨left, hbreaks, hfault⟩ := ih (by simp) (map_eq_error_iff.1 h)
    obtain rfl := Decidable.not_not.1 hc
    have hitem : (Item.oneOf read.reverse).IsProper := by
      simpa [Item.IsProper, hempty] using hstate
    have hopen : openText (some read) ++ ']' :: rest = (Item.oneOf read.reverse).text ++ rest := by
      simp [openText, Item.text]
    rw [hopen]
    exact ⟨left, hbreaks.cons hitem, hfault⟩

theorem itemsFrom_of_not_mem {ending : String} {read rest : List Char} (h : ']' ∉ rest) :
    itemsFrom ending (some read) rest = .error (.unterminatedClass ending) := by
  induction rest generalizing read with
  | nil => rfl
  | cons c rest ih =>
    rw [List.mem_cons, not_or] at h
    rw [itemsFrom, if_pos (Ne.symm h.1)]
    exact ih h.2

/-- An ending is refused for its first bracket that opens no class. -/
theorem items_eq_error_iff {ending : String} {fault : Fault} :
    Ending.items ending = .error fault ↔
      ∃ rest, BreaksBefore ending.toList rest ∧
        (']' ∉ rest ∧ fault = .unterminatedClass ending ∨
          rest.head? = some ']' ∧ fault = .emptyClass ending) := by
  constructor
  · intro h
    exact breaksBefore_of_itemsFrom (by simp) h
  · rintro ⟨rest, ⟨items, hproper, htext⟩, hfault⟩
    rw [Ending.items, htext, itemsFrom_append hproper, map_eq_error_iff, itemsFrom, if_pos rfl]
    rcases hfault with ⟨hrest, rfl⟩ | ⟨hrest, rfl⟩
    · exact itemsFrom_of_not_mem hrest
    · obtain ⟨left, rfl⟩ := List.head?_eq_some_iff.1 hrest
      rfl

end Ending

open Ending (BreaksBefore Spells)

theorem Ending.BreaksBefore.mem {ending : String} {rest : List Char}
    (h : BreaksBefore ending.toList rest) : '[' ∈ ending.toList := by
  obtain ⟨items, -, htext⟩ := h
  rw [htext]
  simp

/-- An ending without brackets is not refused, and one with brackets only if its items cannot be
read or their pattern is none. -/
theorem Strip.ofEnding_eq_error_iff {ending : String} {fault : Fault} :
    Strip.ofEnding ending = .error fault ↔
      (∃ rest, BreaksBefore ending.toList rest ∧
        (']' ∉ rest ∧ fault = .unterminatedClass ending ∨
          rest.head? = some ']' ∧ fault = .emptyClass ending)) ∨
        '[' ∈ ending.toList ∧ fault = .invalidPattern ending ∧ ∃ items, Spells ending items ∧
          Pattern.ofText? (Ending.patternText items) = none := by
  by_cases hmem : '[' ∈ ending.toList
  · have hzero : ending ≠ "0" := by
      rintro rfl
      revert hmem
      decide
    rw [Strip.ofEnding, if_neg hzero, if_neg (Decidable.not_not.2 hmem), bind_eq_error_iff,
      Ending.items_eq_error_iff]
    apply or_congr_right
    simp only [Ending.items_eq_ok_iff]
    constructor
    · rintro ⟨items, hspells, h⟩
      split at h
      · contradiction
      · rename_i hnone
        exact ⟨hmem, (Except.error.inj h).symm, items, hspells, hnone⟩
    · rintro ⟨-, rfl, items, hspells, hnone⟩
      refine ⟨items, hspells, ?_⟩
      rw [hnone]
  · have hok : ∃ strip, Strip.ofEnding ending = .ok strip := by
      rw [Strip.ofEnding, if_pos hmem]
      split
      · exact ⟨_, rfl⟩
      · exact ⟨_, rfl⟩
    obtain ⟨strip, hok⟩ := hok
    rw [hok]
    constructor
    · intro h
      contradiction
    · rintro (⟨rest, hbreaks, -⟩ | ⟨hbracket, -⟩)
      · exact absurd hbreaks.mem hmem
      · exact absurd hbracket hmem

theorem Replacement.references_ofEntry (entry : String) :
    (ofEntry entry).references = entry.toList.count '?' := by
  unfold ofEntry
  split
  · rename_i h
    rw [h]
    decide
  · split
    · rename_i h
      rw [h]
      decide
    · rfl

end Rule

open Rule

namespace RuleSet

/-- The replacement that is reported is the first that refers to too many characters. -/
theorem firstExcess?_eq_some_iff {captures position references : Nat}
    {replacements : List Replacement} :
    firstExcess? captures replacements = some (position, references) ↔
      ∃ replacement, replacements[position]? = some replacement ∧
        replacement.references = references ∧ captures < references ∧
        ∀ earlier < position, ∀ other, replacements[earlier]? = some other →
          other.references ≤ captures := by
  simp only [firstExcess?, Option.map_eq_some_iff, List.find?_eq_some_iff_getElem,
    List.getElem_zipIdx, List.length_zipIdx, Nat.zero_add, Prod.exists, Prod.mk.injEq,
    decide_eq_true_eq, Bool.not_eq_true', decide_eq_false_iff_not, Nat.not_lt]
  constructor
  · rintro ⟨replacement, _, ⟨hexcess, i, hi, ⟨hreplacement, rfl⟩, hearlier⟩, rfl, rfl⟩
    refine ⟨replacement, ?_, rfl, hexcess, ?_⟩
    · rw [List.getElem?_eq_getElem hi, hreplacement]
    · intro earlier hlt other hother
      obtain ⟨hlength, rfl⟩ := List.getElem?_eq_some_iff.1 hother
      exact hearlier earlier hlt
  · rintro ⟨replacement, hreplacement, rfl, hexcess, hearlier⟩
    obtain ⟨hlength, hreplacement⟩ := List.getElem?_eq_some_iff.1 hreplacement
    refine ⟨replacement, position, ⟨hexcess, position, hlength, ⟨hreplacement, rfl⟩, ?_⟩, rfl, rfl⟩
    intro earlier hlt
    exact hearlier earlier hlt _ (List.getElem?_eq_getElem (Nat.lt_trans hlt hlength))

end RuleSet

end Inflection
