import Inflection.Proofs.Rule.Generation

/-!
The form that a line of a rule text makes of a root. The ending is taken off the
root and the line written after what is left; every line that makes a form
makes one only, at its own position among the forms.
-/

namespace Inflection.Rule

open Ending (Fit Item Spells captured)

/-- What is left of a root without its ending, with the characters that the classes of the ending
stand for if it has any. -/
inductive Tokens.Leaves (tokens : Tokens) (root : String) :
    List Char → Option (List Char) → Prop where
  | fixed {stem : List Char} (hclasses : '[' ∉ tokens.ending.toList)
      (hroot : root.toList = stem ++ if tokens.ending = "0" then [] else tokens.ending.toList) :
      Leaves tokens root stem none
  | classes {stem chars : List Char} {items : List Item} (hclasses : '[' ∈ tokens.ending.toList)
      (hspells : Spells tokens.ending items) (hroot : root.toList = stem ++ chars)
      (hfit : Fit items chars) : Leaves tokens root stem (some (captured items chars))

/-- The text that a line writes after a stem. Its question marks stand for the characters that are
kept, and for themselves if the ending has no classes. -/
def Tokens.written (kept : Option (List Char)) (line : String) : List Char :=
  kept.elim line.toList fun chars => Replacement.fill chars line.toList

/-- Whether a line makes a form of a root. A zero makes what is left of the root itself, and the
mark of a form that does not exist makes none. -/
inductive Tokens.Makes (tokens : Tokens) (root line : String) : String → Prop where
  | stem {stem : List Char} {kept : Option (List Char)} (hleaves : tokens.Leaves root stem kept)
      (hzero : line = "0") : Makes tokens root line (String.ofList stem)
  | ending {stem : List Char} {kept : Option (List Char)} (hleaves : tokens.Leaves root stem kept)
      (hzero : line ≠ "0") (hmark : line ≠ "\\-") :
      Makes tokens root line (String.ofList (stem ++ Tokens.written kept line))

namespace Tokens

variable {tokens : Tokens} {root line : String} {stem stem' : List Char}
  {kept kept' : Option (List Char)}

theorem Leaves.unique (h : tokens.Leaves root stem kept) (h' : tokens.Leaves root stem' kept') :
    stem = stem' ∧ kept = kept' := by
  cases h with
  | fixed hclasses hroot =>
    cases h' with
    | fixed _ hroot' => exact ⟨List.append_cancel_right (hroot.symm.trans hroot'), rfl⟩
    | classes hclasses' => exact absurd hclasses' hclasses
  | classes hclasses hspells hroot hfit =>
    cases h' with
    | fixed hclasses' => exact absurd hclasses hclasses'
    | classes _ hspells' hroot' hfit' =>
      obtain rfl := hspells.unique hspells'
      obtain ⟨rfl, rfl⟩ := List.append_inj' (hroot.symm.trans hroot')
        (hfit.length_eq.symm.trans hfit'.length_eq)
      exact ⟨rfl, rfl⟩

/-- The form that a line makes after a stem, if it makes one. -/
def formAfter (stem : List Char) (kept : Option (List Char)) (line : String) : Option String :=
  if line = "0" then some (String.ofList stem)
  else if line = "\\-" then none
  else some (String.ofList (stem ++ written kept line))

theorem Leaves.makes_iff (h : tokens.Leaves root stem kept) {form : String} :
    tokens.Makes root line form ↔ formAfter stem kept line = some form := by
  constructor
  · intro hmakes
    cases hmakes with
    | stem hleaves hzero =>
      obtain ⟨rfl, -⟩ := h.unique hleaves
      rw [formAfter, if_pos hzero]
    | ending hleaves hzero hmark =>
      obtain ⟨rfl, rfl⟩ := h.unique hleaves
      rw [formAfter, if_neg hzero, if_neg hmark]
  · intro hform
    unfold formAfter at hform
    split at hform
    · rename_i hzero
      rw [← Option.some.inj hform]
      exact .stem h hzero
    · rename_i hzero
      split at hform
      · contradiction
      · rename_i hmark
        rw [← Option.some.inj hform]
        exact .ending h hzero hmark

/-- Every line makes a form but the mark of a form that does not exist. -/
theorem Leaves.exists_makes_iff (h : tokens.Leaves root stem kept) :
    (∃ form, tokens.Makes root line form) ↔ line ≠ "\\-" := by
  simp only [h.makes_iff]
  constructor
  · intro hform hmark
    rw [hmark] at hform
    obtain ⟨form, hform⟩ := hform
    contradiction
  · intro hmark
    by_cases hzero : line = "0"
    · exact ⟨_, if_pos hzero⟩
    · refine ⟨String.ofList (stem ++ written kept line), ?_⟩
      rw [formAfter, if_neg hzero, if_neg hmark]

theorem after_ofEntry (stem : List Char) (line : String) :
    (Replacement.ofEntry line).after (String.ofList stem) = formAfter stem none line := by
  rw [Replacement.ofEntry, formAfter]
  split
  · rfl
  · split
    · rfl
    · rw [Replacement.after, written, Option.elim, String.ofList_append, String.ofList_toList]

theorem completed_ofEntry (stem chars : List Char) (line : String) :
    (Replacement.ofEntry line).completed stem chars = formAfter stem (some chars) line := by
  rw [Replacement.ofEntry, formAfter]
  split
  · rfl
  · split
    · rfl
    · rfl

end Tokens

end Inflection.Rule

namespace Inflection.RuleSet

open Rule

variable {tokens : Tokens} {rules : RuleSet} {root : String} {set : FormSet}

/-- A root that fits leaves a stem, after which each line makes the form at its position. -/
theorem exists_leaves (hdeclared : rules.DeclaredBy tokens) (hadmits : rules.Admits root)
    (hfits : rules.strip.Fits root) : ∃ stem kept, tokens.Leaves root stem kept ∧
      rules.generate root = .ok ⟨root, tokens.entries.map (Tokens.formAfter stem kept)⟩ := by
  have hclasses := Strip.isPattern_of_ofEnding hdeclared.strip
  cases hstrip : rules.strip with
  | concatenation suffix =>
    rw [hstrip] at hfits hclasses
    obtain ⟨stem, hstem⟩ := hfits
    have hsuffix := Strip.ofEnding_eq_concatenation (hstrip ▸ hdeclared.strip)
    refine ⟨stem, none, .fixed (fun hmem => nomatch hclasses.2 hmem) ?_, ?_⟩
    · rw [← hstem, hsuffix]
      split <;> rfl
    · rw [generate_of_append hadmits hstrip hstem.symm, hdeclared.replacements, List.map_map]
      simp only [Function.comp_def, Tokens.after_ofEntry]
  | pattern source p count =>
    rw [hstrip] at hclasses
    obtain ⟨rfl, items, hcompiled⟩ := exists_compiled hdeclared hstrip
    obtain ⟨stem, chars, hroot, hfit⟩ := hcompiled.fits_iff.1 hfits
    refine ⟨stem, _, .classes (hclasses.1 rfl) hcompiled.spells hroot hfit, ?_⟩
    rw [hcompiled.generate_of_fit hadmits hroot hfit, hdeclared.replacements, List.map_map]
    simp only [Function.comp_def, Tokens.completed_ofEntry]

section Forms

variable (hdeclared : rules.DeclaredBy tokens) (h : rules.generate root = .ok set)
include hdeclared h

/-- The form at a position is the one that the line at this position makes. -/
theorem get?_eq_some_iff_makes {position : Nat} {form : String} :
    set.get? position = some form ↔
      ∃ line, tokens.entries[position]? = some line ∧ tokens.Makes root line form := by
  obtain ⟨hadmits, hfits⟩ := admits_and_fits_of_generate hdeclared h
  obtain ⟨stem, kept, hleaves, hgenerate⟩ := exists_leaves hdeclared hadmits hfits
  obtain rfl := Except.ok.inj (h.symm.trans hgenerate)
  simp only [FormSet.get?, List.getElem?_map, hleaves.makes_iff]
  cases tokens.entries[position]? <;> simp

theorem exists_makes_iff {line : String} :
    (∃ form, tokens.Makes root line form) ↔ line ≠ "\\-" := by
  obtain ⟨hadmits, hfits⟩ := admits_and_fits_of_generate hdeclared h
  obtain ⟨stem, kept, hleaves, -⟩ := exists_leaves hdeclared hadmits hfits
  exact hleaves.exists_makes_iff

end Forms

end Inflection.RuleSet
