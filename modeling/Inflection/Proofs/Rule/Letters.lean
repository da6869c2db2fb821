import Inflection.Proofs.Rule.Generation

/-!
Endings whose classes have one letter each. Such an ending stands for one text
only, its letters, and the forms of a root are those that come from stripping
this text, once the question marks of the replacements have given way to the
letters of the classes.
-/

namespace Inflection

namespace Rule

open Ending (Item Fit Spells captured)

namespace Ending

open Pattern.CharacterClass (Level atom atomSet? element openLevel part readFrom step)

/-- Whether a character between brackets stands for itself. -/
def IsLetter (c : Char) : Prop := c ≠ '^' ∧ c ≠ '\\' ∧ c ≠ '['

/-- An item without its brackets. -/
def Item.letters : Item → List Char
  | literal c => [c]
  | oneOf classText => classText

/-- What stands between the brackets of an item, if it has any. -/
def Item.kept : Item → List Char
  | literal _ => []
  | oneOf classText => classText

/-- Whether every class has one letter. -/
def Lettered (items : List Item) : Prop :=
  ∀ classText, .oneOf classText ∈ items → ∃ c, classText = [c] ∧ IsLetter c

/-- A class that has been opened for a letter holds this letter alone. A hyphen, which could
make a range, is a letter too. -/
theorem step_letter {c : Char} (hc : IsLetter c) (hclose : c ≠ ']') :
    ∃ level : Level, level.negated = false ∧ level.pending = none ∧ level.count = 1 ∧
      level.members = ∅ ∪ CharSet.single c ∧
      step {} [] (.opened false) [c, ']'] = some (.within [] level, [']']) := by
  obtain ⟨-, hslash, hopen⟩ := hc
  by_cases hhyphen : c = '-'
  · subst c
    exact ⟨_, rfl, rfl, rfl, rfl, rfl⟩
  · have hatom : atom {} [c, ']'] = some (.char c, [']']) := by simp [atom]
    have hpart : part {} [c, ']'] = some (CharSet.single c, [']']) := by
      rw [part, hatom]
      rfl
    have helement : element {} [] (.opened false) [c, ']'] =
        some (.within [] (Level.add (.opened false) ⟨CharSet.single c, 0⟩), [']']) := by
      simp [element, hpart]
    refine ⟨Level.add (.opened false) ⟨CharSet.single c, 0⟩, rfl, rfl, rfl, rfl, ?_⟩
    simp [step, Pattern.Flags.skip, hopen, hclose, hhyphen, helement]

/-- The class of a letter has no other member. -/
theorem classOf?_letter {c : Char} (hc : IsLetter c) (hclose : c ≠ ']') :
    ∃ members, classOf? [c] = some members ∧ ∀ x, members.contains x = true ↔ x = c := by
  obtain ⟨level, hnegated, hpending, hcount, hmembers, hstep⟩ := step_letter hc hclose
  have hopened : openLevel {} [c, ']'] = (.opened false, [c, ']']) := by
    simp [openLevel, Pattern.Flags.skip, hc.1]
  have hread : Pattern.CharacterClass.read {} [c, ']'] = some (⟨level.members, level.height + 1⟩, []) := by
    rw [Pattern.CharacterClass.read, hopened]
    change readFrom {} 3 [] (.opened false) [c, ']'] = _
    rw [readFrom, hstep]
    simp [readFrom, step, Pattern.Flags.skip, Pattern.CharacterClass.close, Level.close?,
      Level.operand, Pattern.Flags.foldCase, hnegated, hpending, hcount]
  refine ⟨level.members, ?_, ?_⟩
  · simp only [classOf?, List.singleton_append, hread]
  · intro x
    rw [hmembers, CharSet.contains_union, CharSet.contains_empty, Bool.false_or]
    exact CharSet.contains_single c x

/-- What an item without its brackets is, if its class has one letter. -/
theorem exists_letter {item : Item} (hproper : item.IsProper)
    (hletter : ∀ classText, item = .oneOf classText → ∃ c, classText = [c] ∧ IsLetter c) :
    ∃ c, item.letters = [c] ∧ ∀ x, item.holds x = true ↔ x = c := by
  cases item with
  | literal c =>
    refine ⟨c, rfl, ?_⟩
    intro x
    exact beq_iff_eq
  | oneOf classText =>
    obtain ⟨c, rfl, hc⟩ := hletter classText rfl
    have hclose : c ≠ ']' := by
      intro h
      apply hproper.2
      rw [h]
      exact List.mem_singleton_self ']'
    obtain ⟨members, hmembers, hcontains⟩ := classOf?_letter hc hclose
    refine ⟨c, rfl, ?_⟩
    intro x
    rw [Item.holds, hmembers]
    exact hcontains x

section Lettered

variable {items : List Item} {chars : List Char}

/-- Items with one letter in each class fit their letters and nothing else. -/
theorem fit_iff_letters (hproper : ∀ item ∈ items, item.IsProper) (hlettered : Lettered items) :
    Fit items chars ↔ chars = items.flatMap Item.letters := by
  induction items generalizing chars with
  | nil => simp [Fit]
  | cons item items ih =>
    have hothers : ∀ rest, Fit items rest ↔ rest = items.flatMap Item.letters := by
      intro rest
      apply ih
      · intro x hx
        exact hproper x (List.mem_cons_of_mem item hx)
      · intro classText hx
        exact hlettered classText (List.mem_cons_of_mem item hx)
    obtain ⟨c, hletters, hholds⟩ := exists_letter (hproper item List.mem_cons_self)
      (fun classText heq => hlettered classText (heq ▸ List.mem_cons_self))
    rw [List.flatMap_cons, hletters, List.singleton_append]
    constructor
    · intro hfit
      obtain ⟨x, rest, hx, hrest, rfl⟩ := List.forall₂_cons_left_iff.1 hfit
      rw [(hholds x).1 hx, (hothers rest).1 hrest]
    · intro hchars
      rw [hchars]
      exact .cons ((hholds c).2 rfl) ((hothers _).2 rfl)

/-- The characters that fit the classes are then the letters of the classes. -/
theorem captured_letters (hlettered : Lettered items) :
    captured items (items.flatMap Item.letters) = items.flatMap Item.kept := by
  induction items with
  | nil => rfl
  | cons item items ih =>
    have hothers := ih fun classText hx => hlettered classText (List.mem_cons_of_mem item hx)
    cases item with
    | literal c => exact hothers
    | oneOf classText =>
      obtain ⟨c, rfl, -⟩ := hlettered classText List.mem_cons_self
      exact congrArg (List.cons c) hothers

end Lettered

end Ending

namespace Replacement

/-- The replacement in which the given letters stand in place of the question marks. -/
def resolved (letters : List Char) : Replacement → Replacement
  | literal text => literal (String.ofList (fill letters text.toList))
  | empty => empty
  | absent => absent

/-- Completing a replacement after a stem is writing it with its letters after the stem. -/
theorem after_resolved (head letters : List Char) (replacement : Replacement) :
    (replacement.resolved letters).after (String.ofList head) = replacement.completed head letters := by
  cases replacement with
  | literal text => simp [resolved, after, completed]
  | empty | absent => rfl

end Replacement

/-- The text that an ending without its brackets is. -/
def Ending.flat (items : List Item) : String := String.ofList (items.flatMap Item.letters)

end Rule

namespace RuleSet

open Rule
open Ending (Item Spells Lettered)

/-- Where every class of an ending has one letter, putting the letters in place of the question
marks and stripping the ending as a fixed text makes the same forms of the same roots. -/
theorem substitute_eq_concatenate {text : String} {rules : RuleSet} {source : String} {p : Pattern}
    {count : Nat} {items : List Item} (hrules : RuleSet.ofText text = .ok rules)
    (hstrip : rules.strip = .pattern source p count) (hspells : Spells source items)
    (hlettered : Lettered items) (root : String) :
    ((Ending.flat items).toList <:+ root.toList ∧ ∃ forms,
      substitute root source p rules.replacements = .ok forms ∧
      concatenate root (Ending.flat items)
        (rules.replacements.map (Replacement.resolved (items.flatMap Item.kept))) = .ok forms) ∨
    (¬ (Ending.flat items).toList <:+ root.toList ∧
      (substitute root source p rules.replacements).mapError Misfit.toError =
        .error (.validation root source (Condition.pattern source).message) ∧
      (concatenate root (Ending.flat items)
        (rules.replacements.map (Replacement.resolved (items.flatMap Item.kept)))).mapError
          Misfit.toError =
        .error (.validation root (Ending.flat items) (Condition.suffix (Ending.flat items)).message)) := by
  obtain ⟨tokens, -, hdeclared⟩ := ofText_eq_ok_iff.1 hrules
  obtain ⟨-, items', hcompiled⟩ := exists_compiled hdeclared hstrip
  obtain rfl := hspells.unique hcompiled.spells
  have hletters : ∀ chars, Ending.Fit items chars ↔ chars = items.flatMap Item.letters :=
    fun chars => Ending.fit_iff_letters hspells.2 hlettered
  have hreferences : ∀ replacement ∈ rules.replacements,
      replacement.references ≤ Ending.captures items := by
    rw [← hcompiled.count_eq]
    exact hcompiled.references
  by_cases hflat : (Ending.flat items).toList <:+ root.toList
  · left
    obtain ⟨head, hroot⟩ := hflat
    have hroot' : root.toList = head ++ items.flatMap Item.letters := by
      rw [← hroot, Ending.flat, String.toList_ofList]
    have hforms : substitute root source p rules.replacements = _ :=
      substitute_of_fit hcompiled.leads hreferences hroot' ((hletters _).2 rfl)
    rw [Ending.captured_letters hlettered] at hforms
    refine ⟨⟨head, hroot⟩, _, hforms, ?_⟩
    rw [concatenate_of_append hroot.symm, List.map_map]
    congr 1
    apply List.map_congr_left
    intro replacement _
    exact Replacement.after_resolved head _ replacement
  · right
    have hnone : ¬ ∃ head chars, root.toList = head ++ chars ∧ Ending.Fit items chars := by
      rintro ⟨head, chars, hroot, hfit⟩
      apply hflat
      rw [Ending.flat, String.toList_ofList, ← (hletters chars).1 hfit]
      exact ⟨head, hroot.symm⟩
    refine ⟨hflat, ?_, ?_⟩
    · rw [substitute_of_not_fit hcompiled.leads hnone]
      rfl
    · rw [concatenate_of_not_suffix hflat]
      rfl

theorem substitute_eq_concatenate_repeated : ∃ rules source p count,
    RuleSet.ofText "[в]е[ц]\n??и\n?е?\n\\-" = .ok rules ∧ rules.strip = .pattern source p count ∧
      substitute "певецвец" source p rules.replacements =
        .ok [some "певецвци", some "певецвец", none] ∧
      concatenate "певецвец" "вец" [.literal "вци", .literal "вец", .absent] =
        .ok [some "певецвци", some "певецвец", none] := by
  have hparts : (RuleSet.ofText "[в]е[ц]\n??и\n?е?\n\\-").toOption.any (fun rules =>
      rules.strip.isPattern ∧ rules.strip.source = "[в]е[ц]" ∧
        rules.replacements = [.literal "??и", .literal "?е?", .absent]) = true := by
    decide +kernel
  obtain ⟨rules, hrules, hparts⟩ := exists_eq_ok_of_any hparts
  obtain ⟨hpattern, hsource, hreplacements⟩ := of_decide_eq_true hparts
  cases hstrip : rules.strip with
  | concatenation suffix => rw [hstrip] at hpattern; contradiction
  | pattern source p count =>
    obtain rfl : source = "[в]е[ц]" := by rwa [hstrip] at hsource
    have hspells : Spells "[в]е[ц]" [.oneOf ['в'], .literal 'е', .oneOf ['ц']] :=
      Ending.items_eq_ok_iff.1 (by decide +kernel)
    have hlettered : Lettered [.oneOf ['в'], .literal 'е', .oneOf ['ц']] := by
      simp [Lettered, Ending.IsLetter]
    refine ⟨rules, _, p, count, hrules, hstrip, ?_⟩
    rcases substitute_eq_concatenate hrules hstrip hspells hlettered "певецвец" with
      ⟨-, forms, hsubstitute, hconcatenate⟩ | ⟨hnot, -, -⟩
    · rw [hreplacements] at hconcatenate hsubstitute
      rw [hreplacements, hsubstitute, ← hconcatenate]
      decide +kernel
    · exact absurd (by decide +kernel) hnot

end RuleSet

end Inflection
