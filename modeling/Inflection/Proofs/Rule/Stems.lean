import Inflection.Proofs.Rule.Generation
import Inflection.Proofs.Rule.Precondition

/-!
Longer stems. A rule looks at the end of a root only, so that a text put before
a root that has forms comes before each of the forms. The condition of a rule is
a pattern and could look at more: what is needed is that it is a pattern by
itself, sets no condition on the place, and that the text is on one line.
-/

namespace Inflection

namespace Rule

/-- Whether a condition is a pattern by itself that sets no condition on the place. -/
def Precondition.IsPlain (condition : Precondition) : Prop :=
  ∃ p, Pattern.ofText? condition.source.toList = some p ∧ p.node.isLookFree = true

/-- A condition that holds of a root holds of it after any text on one line. -/
theorem Precondition.isSatisfiedBy_append {condition : Precondition}
    (hpattern : Pattern.ofText? (patternText condition.source) = some condition.pattern)
    (hplain : condition.IsPlain) {before root : String} (hline : '\n' ∉ before.toList)
    (h : condition.isSatisfiedBy root = true) : condition.isSatisfiedBy (before ++ root) = true := by
  obtain ⟨p, hp, hfree⟩ := hplain
  obtain ⟨head, tail, hroot, hhead, hmatches⟩ := (isSatisfiedBy_iff hpattern hp hfree).1 h
  apply (isSatisfiedBy_iff hpattern hp hfree).2
  refine ⟨before.toList ++ head, tail, ?_, ?_, hmatches⟩
  · rw [String.toList_append, hroot, List.append_assoc]
  · intro hmem
    rcases List.mem_append.1 hmem with hbefore | hmem
    · exact hline hbefore
    · exact hhead hmem

namespace Replacement

theorem after_append (before stem : List Char) (replacement : Replacement) :
    replacement.after (String.ofList (before ++ stem)) =
      (replacement.after (String.ofList stem)).map (String.ofList before ++ ·) := by
  cases replacement with
  | literal text => simp [after, String.append_assoc]
  | empty => simp [after]
  | absent => rfl

theorem completed_append (before head chars : List Char) (replacement : Replacement) :
    replacement.completed (before ++ head) chars =
      (replacement.completed head chars).map (String.ofList before ++ ·) := by
  cases replacement <;> simp [completed]

end Replacement

end Rule

namespace RuleSet

open Rule

variable {rules : RuleSet} {tokens : Tokens} {root : String} {set : FormSet}

/-- The forms of a root with the ending, and of all longer roots that satisfy the condition, are
made in one way from what is left of the root without its ending. -/
theorem exists_form (hdeclared : rules.DeclaredBy tokens) (h : rules.strip.Fits root) :
    ∃ (stem : List Char) (form : List Char → Replacement → Option String),
      (∀ before stem replacement, form (before ++ stem) replacement =
        (form stem replacement).map (String.ofList before ++ ·)) ∧
      ∀ before : String, rules.Admits (before ++ root) → rules.generate (before ++ root) =
        .ok ⟨before ++ root, rules.replacements.map (form (before.toList ++ stem))⟩ := by
  cases hstrip : rules.strip with
  | concatenation suffix =>
    rw [hstrip] at h
    obtain ⟨stem, hstem⟩ := h
    refine ⟨stem, fun stem => Replacement.after (String.ofList stem), Replacement.after_append, ?_⟩
    intro before hadmits
    apply generate_of_append hadmits hstrip
    rw [String.toList_append, ← hstem, List.append_assoc]
  | pattern source p count =>
    obtain ⟨-, items, hcompiled⟩ := exists_compiled hdeclared hstrip
    obtain ⟨head, chars, hroot, hfit⟩ := hcompiled.fits_iff.1 h
    refine ⟨head, fun head => Replacement.completed head (Ending.captured items chars), ?_, ?_⟩
    · intro before head replacement
      exact Replacement.completed_append before head _ replacement
    · intro before hadmits
      apply hcompiled.generate_of_fit hadmits _ hfit
      rw [String.toList_append, hroot, List.append_assoc]

/-- A text before a root comes before each of its forms, and no form is made or lost by it. -/
theorem generate_append {text : String} (hrules : RuleSet.ofText text = .ok rules)
    (hplain : ∀ condition ∈ rules.precondition, condition.IsPlain)
    (h : rules.generate root = .ok set) {before : String}
    (hline : rules.precondition ≠ none → '\n' ∉ before.toList) :
    rules.generate (before ++ root) =
      .ok ⟨before ++ root, set.forms.map (Option.map (before ++ ·))⟩ := by
  obtain ⟨tokens, -, hdeclared⟩ := ofText_eq_ok_iff.1 hrules
  obtain ⟨hadmits, hfits⟩ := admits_and_fits_of_generate hdeclared h
  obtain ⟨stem, form, hform, hgenerate⟩ := exists_form hdeclared hfits
  have hset : set.forms = rules.replacements.map (form stem) := by
    have hroot := hgenerate "" (by simpa using hadmits)
    simp only [String.empty_append, h, Except.ok.injEq] at hroot
    rw [hroot]
    rfl
  have hlonger : rules.Admits (before ++ root) := by
    intro condition hcondition
    have hmem : '\n' ∉ before.toList := by
      apply hline
      rw [Option.mem_def.1 hcondition]
      simp
    exact Precondition.isSatisfiedBy_append (hdeclared.pattern_of_mem hcondition).2
      (hplain condition hcondition) hmem (hadmits condition hcondition)
  rw [hgenerate before hlonger, hset, List.map_map]
  congr 2
  apply List.map_congr_left
  intro replacement _
  rw [hform, String.ofList_toList]
  rfl

theorem generate_append_twice : ∃ rules, RuleSet.ofText "[ао]к, ын[ао]к|ь\n?чка\n\\-" = .ok rules ∧
    rules.generate "рынак" = .ok ⟨"рынак", [some "рыначка", none]⟩ ∧
      rules.generate ("рынак, " ++ "рынак") =
        .ok ⟨"рынак, рынак", [some "рынак, рыначка", none]⟩ := by
  have hparts : (RuleSet.ofText "[ао]к, ын[ао]к|ь\n?чка\n\\-").toOption.any (fun rules =>
      rules.precondition.all (fun condition =>
        (Pattern.ofText? condition.source.toList).any (·.node.isLookFree)) ∧
      (rules.generate "рынак").toOption = some ⟨"рынак", [some "рыначка", none]⟩) = true := by
    decide +kernel
  obtain ⟨rules, hrules, hparts⟩ := exists_eq_ok_of_any hparts
  obtain ⟨hfree, hforms⟩ := of_decide_eq_true hparts
  have hplain : ∀ condition ∈ rules.precondition, condition.IsPlain := by
    intro condition hcondition
    have hcondition := (Option.all_eq_true _ _).1 hfree condition hcondition
    exact (Option.any_eq_true _ _).1 hcondition
  have hgenerate : rules.generate "рынак" = .ok ⟨"рынак", [some "рыначка", none]⟩ := by
    cases houtcome : rules.generate "рынак" with
    | error misfit => simp [houtcome, Except.toOption] at hforms
    | ok set =>
      rw [houtcome] at hforms
      rw [Option.some.inj hforms]
  refine ⟨rules, hrules, hgenerate, ?_⟩
  exact generate_append hrules hplain hgenerate (fun _ => by decide)

end RuleSet

end Inflection
