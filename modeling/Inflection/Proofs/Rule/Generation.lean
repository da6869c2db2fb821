import Inflection.Proofs.Rule.Matching
import Inflection.Rule.Generation

/-!
What the forms of a root are, by the way its ending is stripped, and which
condition a root fails that has none.
-/

namespace Inflection

/-- The forms that exist are all but those that do not, in their order. -/
theorem FormSet.map_some_present (set : FormSet) :
    set.present.map some = set.forms.filter Option.isSome := by
  rw [present]
  induction set.forms with
  | nil => rfl
  | cons form forms ih => cases form <;> simp_all

namespace Rule

open Ending (Item Fit Spells captured)

namespace Replacement

/-- A text with its question marks replaced, from left to right, by the given characters. -/
def fill : List Char → List Char → List Char
  | _, [] => []
  | chars, c :: text =>
    if c = '?' then chars.head?.toList ++ fill chars.tail text else c :: fill chars text

/-- The form that takes the place of an ending of which the given characters are kept. -/
def completed (head chars : List Char) : Replacement → Option String
  | literal text => some (String.ofList (head ++ fill chars text.toList))
  | empty => some (String.ofList head)
  | absent => none

theorem after_eq_none_iff {stem : String} (replacement : Replacement) :
    replacement.after stem = none ↔ replacement = absent := by
  cases replacement <;> simp [after]

theorem completed_eq_none_iff {head chars : List Char} (replacement : Replacement) :
    replacement.completed head chars = none ↔ replacement = absent := by
  cases replacement <;> simp [completed]

theorem resolve_eq_fill {group? : Nat → Option (List Char)} {chars text : List Char} {next : Nat}
    (hgroup : ∀ k c, chars[k]? = some c → group? (next + k) = some [c])
    (hcount : text.count '?' ≤ chars.length) : resolve group? next text = fill chars text := by
  induction text generalizing chars next with
  | nil => rfl
  | cons c text ih =>
    rw [resolve, fill]
    by_cases hc : c = '?'
    · rw [if_pos hc, if_pos hc]
      rw [hc, List.count_cons_self] at hcount
      cases chars with
      | nil => simp at hcount
      | cons x chars =>
        have hfirst : group? next = some [x] := hgroup 0 x rfl
        have hothers : ∀ k c, chars[k]? = some c → group? (next + 1 + k) = some [c] := by
          intro k c hk
          rw [Nat.add_right_comm]
          exact hgroup (k + 1) c hk
        rw [hfirst, ih hothers (Nat.le_of_succ_le_succ hcount)]
        rfl
    · rw [if_neg hc, if_neg hc, ih hgroup]
      rwa [List.count_cons_of_ne hc] at hcount

end Replacement

section Concatenation

variable {root suffix : String} {replacements : List Replacement}

theorem concatenate_of_append {stem : List Char} (h : root.toList = stem ++ suffix.toList) :
    concatenate root suffix replacements =
      .ok (replacements.map (Replacement.after (String.ofList stem))) := by
  rw [concatenate, List.isSuffixOf?_eq_some_iff_append_eq.2 h.symm]

theorem concatenate_of_not_suffix (h : ¬ suffix.toList <:+ root.toList) :
    concatenate root suffix replacements = .error (.unfit root (.suffix suffix)) := by
  unfold concatenate
  split
  · rename_i stem heq
    exact absurd ⟨stem, List.isSuffixOf?_eq_some_iff_append_eq.1 heq⟩ h
  · rfl

end Concatenation

section Substitution

open Pattern (Node)

variable {root source : String} {p : Pattern} {items : List Item} {replacements : List Replacement}

theorem substitute_of_fit
    (hleads : ∀ a b, p.node.Leads a b ↔
      Node.LeadsAll (Ending.nodes 1 items ++ [.look .endOfText]) a b)
    (hreferences : ∀ replacement ∈ replacements, replacement.references ≤ Ending.captures items)
    {head chars : List Char} (hroot : root.toList = head ++ chars) (hfit : Fit items chars) :
    substitute root source p replacements =
      .ok (replacements.map (Replacement.completed head (captured items chars))) := by
  have hsome := (Ending.isSome_find?_iff hleads).2 ⟨head, chars, hroot, hfit⟩
  obtain ⟨found, hfound⟩ := Option.isSome_iff_exists.1 hsome
  obtain ⟨head', chars', hroot', hfit', hspan, hgroups⟩ := Ending.of_find? hleads hfound
  obtain ⟨rfl, rfl⟩ : head = head' ∧ chars = chars' :=
    List.append_inj' (hroot.symm.trans hroot') (hfit.length_eq.symm.trans hfit'.length_eq)
  rw [substitute, hfound]
  simp only [hspan, Except.ok.injEq, List.map_inj_left]
  intro replacement hmem
  have hhead : root.toList.take head.length = head := by rw [hroot, List.take_left]
  have htail : root.toList.drop root.toList.length = [] := List.drop_length
  rw [hhead, htail]
  cases replacement with
  | literal text =>
    have hresolve : Replacement.resolve found.group? 1 text.toList =
        Replacement.fill (captured items chars) text.toList :=
      Replacement.resolve_eq_fill (fun k c hk => by rw [Nat.add_comm]; exact hgroups k c hk)
        (by rw [Ending.length_captured hfit]; exact hreferences _ hmem)
    rw [Replacement.form, hresolve, List.append_nil]
    rfl
  | empty => rw [Replacement.form, List.append_nil]; rfl
  | absent => rfl

theorem substitute_of_not_fit
    (hleads : ∀ a b, p.node.Leads a b ↔
      Node.LeadsAll (Ending.nodes 1 items ++ [.look .endOfText]) a b)
    (h : ¬ ∃ head chars, root.toList = head ++ chars ∧ Fit items chars) :
    substitute root source p replacements = .error (.unfit root (.pattern source)) := by
  have hnone : p.find? root.toList = none := by
    rw [← Option.not_isSome_iff_eq_none, Ending.isSome_find?_iff hleads]
    exact h
  rw [substitute, hnone]

end Substitution

/-- Whether a root has the ending that is to be stripped. The items of an ending with classes are
compared with the last characters of the root one by one. -/
def Strip.Fits : Strip → String → Prop
  | .concatenation suffix, root => suffix.toList <:+ root.toList
  | .pattern source _ _, root => ∃ items head chars, Spells source items ∧
      root.toList = head ++ chars ∧ Fit items chars

/-- The condition that a root without the ending fails. -/
def Strip.unmet : Strip → Condition
  | .concatenation suffix => .suffix suffix
  | .pattern source _ _ => .pattern source

end Rule

namespace RuleSet

open Rule
open Ending (Denotes Item Fit Spells captured classOf?)

variable {tokens : Tokens} {rules : RuleSet} {root : String}

/-- Whether a root satisfies the condition of a rule, if there is one. -/
def Admits (rules : RuleSet) (root : String) : Prop :=
  ∀ condition ∈ rules.precondition, condition.isSatisfiedBy root = true

/-- The forms of a root, or the error that is reported. -/
def outcome (rules : RuleSet) (root : String) : Except Error FormSet :=
  (rules.generate root).mapError Misfit.toError

theorem generate_of_not_admits (hdeclared : rules.DeclaredBy tokens) (h : ¬ rules.Admits root) :
    ∃ source, tokens.precondition = some source ∧
      rules.generate root = .error (.unfit root (.precondition source)) := by
  simp only [Admits, not_forall] at h
  obtain ⟨condition, hcondition, hfails⟩ := h
  refine ⟨condition.source, (hdeclared.pattern_of_mem hcondition).1, ?_⟩
  rw [generate, Option.mem_def.1 hcondition, checkPrecondition, if_neg hfails]
  rfl

theorem generate_of_admits (h : rules.Admits root) : rules.generate root =
    (match rules.strip with
      | .concatenation suffix => concatenate root suffix rules.replacements
      | .pattern source p _ => substitute root source p rules.replacements).map (⟨root, ·⟩) := by
  have hcheck : checkPrecondition root rules.precondition = .ok () := by
    cases hcondition : rules.precondition with
    | none => rfl
    | some condition => rw [checkPrecondition, if_pos (h condition hcondition)]
  rw [generate, hcheck]
  cases rules.strip <;> rfl

section WithClasses

variable {source : String} {p : Pattern} {count : Nat} {items : List Item}

/-- What is known about an ending with classes that has been accepted. -/
structure Compiled (rules : RuleSet) (source : String) (p : Pattern) (count : Nat)
    (items : List Item) : Prop where
  strip : rules.strip = .pattern source p count
  spells : Spells source items
  classes : ∀ classText, .oneOf classText ∈ items → (classOf? classText).isSome
  count_eq : count = Ending.captures items
  groups : p.node.groups = List.range' 1 count
  leads : ∀ a b, p.node.Leads a b ↔
    Pattern.Node.LeadsAll (Ending.nodes 1 items ++ [.look .endOfText]) a b
  references : ∀ replacement ∈ rules.replacements, replacement.references ≤ count

theorem exists_compiled (hdeclared : rules.DeclaredBy tokens)
    (hstrip : rules.strip = .pattern source p count) :
    source = tokens.ending ∧ ∃ items, rules.Compiled source p count items := by
  obtain ⟨rfl, items, hitems, hp, rfl⟩ := Strip.ofEnding_eq_pattern (hstrip ▸ hdeclared.strip)
  have hspells := Ending.items_eq_ok_iff.1 hitems
  obtain ⟨hclasses, hgroups, hleads⟩ := Ending.node_of_ofText? hspells.2 hp
  have hreferences := references_le_of_checkReferences (hstrip ▸ hdeclared.references)
  exact ⟨rfl, items, hstrip, hspells, hclasses, rfl, hgroups, hleads, hreferences⟩

namespace Compiled

theorem fits_iff (h : rules.Compiled source p count items) :
    rules.strip.Fits root ↔ ∃ head chars, root.toList = head ++ chars ∧ Fit items chars := by
  rw [h.strip]
  constructor
  · rintro ⟨items', head, chars, hspells, hroot, hfit⟩
    obtain rfl := hspells.unique h.spells
    exact ⟨head, chars, hroot, hfit⟩
  · rintro ⟨head, chars, hroot, hfit⟩
    exact ⟨items, head, chars, h.spells, hroot, hfit⟩

theorem generate_of_fit (h : rules.Compiled source p count items) (hadmits : rules.Admits root)
    {head chars : List Char} (hroot : root.toList = head ++ chars) (hfit : Fit items chars) :
    rules.generate root =
      .ok ⟨root, rules.replacements.map (Replacement.completed head (captured items chars))⟩ := by
  have hreferences := h.references
  rw [h.count_eq] at hreferences
  rw [generate_of_admits hadmits, h.strip]
  simp only [substitute_of_fit h.leads hreferences hroot hfit]
  rfl

theorem generate_of_not_fits (h : rules.Compiled source p count items)
    (hadmits : rules.Admits root) (hnot : ¬ rules.strip.Fits root) :
    rules.generate root = .error (.unfit root (.pattern source)) := by
  rw [h.fits_iff] at hnot
  rw [generate_of_admits hadmits, h.strip]
  simp only [substitute_of_not_fit h.leads hnot]
  rfl

end Compiled

/-- An ending with classes that is accepted stands for as many characters as it has items. -/
theorem generate_of_pattern {text : String} (htokens : Tokens.ofText text = .ok tokens)
    (hrules : RuleSet.ofText text = .ok rules) (hstrip : rules.strip = .pattern source p count) :
    ∃ items, source = tokens.ending ∧ Spells source items ∧
      (∀ classText, .oneOf classText ∈ items →
        ∃ members, classOf? classText = some members ∧ Denotes classText members) ∧
      count = Ending.captures items ∧ p.node.groups = List.range' 1 count ∧
      (∀ replacement ∈ rules.replacements, replacement.references ≤ count) ∧
      ∀ root, rules.Admits root →
        ((rules.generate root).isOk ↔
          ∃ head chars, root.toList = head ++ chars ∧ Fit items chars) ∧
        ∀ head chars, root.toList = head ++ chars → Fit items chars →
          rules.generate root =
            .ok ⟨root, rules.replacements.map (Replacement.completed head (captured items chars))⟩ := by
  obtain ⟨tokens', htokens', hdeclared⟩ := ofText_eq_ok_iff.1 hrules
  obtain rfl := Except.ok.inj (htokens.symm.trans htokens')
  obtain ⟨hsource, items, hcompiled⟩ := exists_compiled hdeclared hstrip
  have hclasses : ∀ classText, .oneOf classText ∈ items →
      ∃ members, classOf? classText = some members ∧ Denotes classText members := by
    intro classText hmem
    obtain ⟨members, hmembers⟩ := Option.isSome_iff_exists.1 (hcompiled.classes classText hmem)
    exact ⟨members, hmembers, Ending.denotes_of_classOf? hmembers⟩
  refine ⟨items, hsource, hcompiled.spells, hclasses, hcompiled.count_eq, hcompiled.groups,
    hcompiled.references, fun root hadmits => ⟨⟨fun hok => ?_, ?_⟩, ?_⟩⟩
  · by_contra hnot
    rw [hcompiled.generate_of_not_fits hadmits (hcompiled.fits_iff.not.2 hnot)] at hok
    contradiction
  · rintro ⟨head, chars, hroot, hfit⟩
    rw [hcompiled.generate_of_fit hadmits hroot hfit]
    rfl
  · intro head chars hroot hfit
    exact hcompiled.generate_of_fit hadmits hroot hfit

theorem generate_of_pattern_kept : ∃ rules, RuleSet.ofText "[ао]к\n?чка\n\\-" = .ok rules ∧
    rules.strip.isPattern = true ∧
      rules.generate "рынак" = .ok ⟨"рынак", [some "рыначка", none]⟩ := by
  have htokens : Tokens.ofText "[ао]к\n?чка\n\\-" = .ok ⟨"[ао]к", none, ["?чка", "\\-"]⟩ := by
    decide +kernel
  have hparts : (RuleSet.ofText "[ао]к\n?чка\n\\-").toOption.any (fun rules =>
      rules.precondition.isNone ∧ rules.strip.isPattern ∧
        rules.replacements = [.literal "?чка", .absent]) = true := by
    decide +kernel
  obtain ⟨rules, hrules, hparts⟩ := exists_eq_ok_of_any hparts
  obtain ⟨hprecondition, hpattern, hreplacements⟩ := of_decide_eq_true hparts
  have hadmits : rules.Admits "рынак" := by simp [Admits, Option.isNone_iff_eq_none.1 hprecondition]
  refine ⟨rules, hrules, hpattern, ?_⟩
  cases hstrip : rules.strip with
  | concatenation suffix => rw [hstrip] at hpattern; contradiction
  | pattern source p count =>
    obtain ⟨items, rfl, hspells, -, -, -, -, hgenerate⟩ :=
      generate_of_pattern htokens hrules hstrip
    have hitems : items = [.oneOf ['а', 'о'], .literal 'к'] :=
      hspells.unique (Ending.items_eq_ok_iff.1 (by decide +kernel))
    subst hitems
    have hfit : Fit [.oneOf ['а', 'о'], .literal 'к'] ['а', 'к'] :=
      .cons (by decide +kernel) (.cons rfl .nil)
    rw [(hgenerate "рынак" hadmits).2 ['р', 'ы', 'н'] ['а', 'к'] (by decide) hfit, hreplacements]
    decide +kernel

end WithClasses

theorem generate_of_append {suffix : String} {stem : List Char} (hadmits : rules.Admits root)
    (hstrip : rules.strip = .concatenation suffix) (hroot : root.toList = stem ++ suffix.toList) :
    rules.generate root =
      .ok ⟨root, rules.replacements.map (Replacement.after (String.ofList stem))⟩ := by
  rw [generate_of_admits hadmits, hstrip]
  simp only [concatenate_of_append hroot]
  rfl

/-- A root without the ending is refused for the ending as it was declared. -/
theorem generate_of_not_fits (hdeclared : rules.DeclaredBy tokens) (hadmits : rules.Admits root)
    (h : ¬ rules.strip.Fits root) : rules.strip.unmet.source = tokens.ending ∧
      rules.generate root = .error (.unfit root rules.strip.unmet) := by
  cases hstrip : rules.strip with
  | concatenation suffix =>
    have hnot : ¬ suffix.toList <:+ root.toList := by rwa [hstrip] at h
    have hsuffix := Strip.ofEnding_eq_concatenation (hstrip ▸ hdeclared.strip)
    have hzero : tokens.ending ≠ "0" := by
      -- every root ends with nothing
      intro hzero
      rw [if_pos hzero] at hsuffix
      exact hnot (hsuffix ▸ List.nil_suffix)
    rw [if_neg hzero] at hsuffix
    refine ⟨hsuffix, ?_⟩
    rw [generate_of_admits hadmits, hstrip]
    simp only [concatenate_of_not_suffix hnot]
    rfl
  | pattern source p count =>
    obtain ⟨hsource, items, hcompiled⟩ := exists_compiled hdeclared hstrip
    exact ⟨hsource, hcompiled.generate_of_not_fits hadmits h⟩

/-- A root that has forms satisfies the condition and has the ending. -/
theorem admits_and_fits_of_generate (hdeclared : rules.DeclaredBy tokens) {set : FormSet}
    (h : rules.generate root = .ok set) : rules.Admits root ∧ rules.strip.Fits root := by
  have hadmits : rules.Admits root := by
    by_contra hnot
    obtain ⟨source, -, herror⟩ := generate_of_not_admits hdeclared hnot
    rw [h] at herror
    contradiction
  refine ⟨hadmits, ?_⟩
  by_contra hnot
  have herror := (generate_of_not_fits hdeclared hadmits hnot).2
  rw [h] at herror
  contradiction

/-- A root that fits has all its forms. Which of them exist is the same for all roots. -/
theorem exists_generate_eq (hdeclared : rules.DeclaredBy tokens) (hadmits : rules.Admits root)
    (h : rules.strip.Fits root) : ∃ form : Replacement → Option String,
      (∀ replacement, form replacement = none ↔ replacement = .absent) ∧
      (∀ suffix, rules.strip = .concatenation suffix →
        ∃ stem, root = stem ++ suffix ∧ form = Replacement.after stem) ∧
      rules.generate root = .ok ⟨root, rules.replacements.map form⟩ := by
  cases hstrip : rules.strip with
  | concatenation suffix =>
    obtain ⟨stem, hstem⟩ : suffix.toList <:+ root.toList := by rwa [hstrip] at h
    refine ⟨_, Replacement.after_eq_none_iff, ?_, generate_of_append hadmits hstrip hstem.symm⟩
    rintro _ ⟨rfl⟩
    refine ⟨String.ofList stem, ?_, rfl⟩
    rw [← String.toList_inj, String.toList_append, String.toList_ofList, hstem]
  | pattern source p count =>
    obtain ⟨-, items, hcompiled⟩ := exists_compiled hdeclared hstrip
    obtain ⟨head, chars, hroot, hfit⟩ := hcompiled.fits_iff.1 h
    exact ⟨_, Replacement.completed_eq_none_iff, by simp,
      hcompiled.generate_of_fit hadmits hroot hfit⟩

/-- A root fails the condition, or satisfies it and fails the ending, or has all its forms. There
is no other outcome. -/
theorem generate_outcome {text : String} (htokens : Tokens.ofText text = .ok tokens)
    (hrules : RuleSet.ofText text = .ok rules) (root : String) :
    (¬ rules.Admits root ∧ ∃ source, tokens.precondition = some source ∧
      rules.outcome root = .error (.validation root source (Condition.precondition source).message)) ∨
    (rules.Admits root ∧ ¬ rules.strip.Fits root ∧
      rules.outcome root = .error (.validation root tokens.ending rules.strip.unmet.message)) ∨
    (rules.Admits root ∧ rules.strip.Fits root ∧ ∃ set, rules.outcome root = .ok set ∧ set.root = root ∧
      set.size = rules.replacements.length ∧ 1 ≤ set.size ∧
      (∀ i : Nat, set.forms[i]? = some none ↔ rules.replacements[i]? = some Replacement.absent) ∧
      set.present.map some = set.forms.filter Option.isSome ∧
      ∀ suffix, rules.strip = .concatenation suffix →
        ∃ stem, root = stem ++ suffix ∧ set.forms = rules.replacements.map (Replacement.after stem)) := by
  obtain ⟨tokens', htokens', hdeclared⟩ := ofText_eq_ok_iff.1 hrules
  obtain rfl := Except.ok.inj (htokens.symm.trans htokens')
  by_cases hadmits : rules.Admits root
  · by_cases hfits : rules.strip.Fits root
    · right; right
      obtain ⟨form, hnone, hconcatenation, hgenerate⟩ := exists_generate_eq hdeclared hadmits hfits
      refine ⟨hadmits, hfits, ⟨root, rules.replacements.map form⟩, by rw [outcome, hgenerate]; rfl, rfl,
        List.length_map _, ?_, ?_, FormSet.map_some_present _, ?_⟩
      · rw [FormSet.size, List.length_map, hdeclared.replacements, List.length_map]
        exact List.length_pos_iff.2 hdeclared.entries
      · intro i
        simp [hnone]
      · intro suffix hstrip
        obtain ⟨stem, hroot, rfl⟩ := hconcatenation suffix hstrip
        exact ⟨stem, hroot, rfl⟩
    · right; left
      obtain ⟨hsource, hgenerate⟩ := generate_of_not_fits hdeclared hadmits hfits
      refine ⟨hadmits, hfits, ?_⟩
      rw [outcome, hgenerate, ← hsource]
      rfl
  · left
    obtain ⟨source, hsource, hgenerate⟩ := generate_of_not_admits hdeclared hadmits
    refine ⟨hadmits, source, hsource, ?_⟩
    rw [outcome, hgenerate]
    rfl

theorem generate_outcome_stem : ∃ rules set, RuleSet.ofText "ка, [аеу]ка\nкі\n\\-" = .ok rules ∧
    rules.outcome "рука" = .ok set ∧ set.root = "рука" ∧ set.size = 2 ∧
      ∃ stem, "рука" = stem ++ "ка" ∧ set.forms = [some (stem ++ "кі"), none] := by
  have htokens : Tokens.ofText "ка, [аеу]ка\nкі\n\\-" = .ok ⟨"ка", some "[аеу]ка", ["кі", "\\-"]⟩ := by
    decide +kernel
  have hparts : (RuleSet.ofText "ка, [аеу]ка\nкі\n\\-").toOption.any (fun rules =>
      rules.precondition.all (·.isSatisfiedBy "рука") ∧ rules.strip.isPattern = false ∧
        rules.strip.source = "ка" ∧ rules.replacements = [.literal "кі", .absent]) = true := by
    decide +kernel
  obtain ⟨rules, hrules, hparts⟩ := exists_eq_ok_of_any hparts
  obtain ⟨hsatisfied, hconcatenation, hsuffix, hreplacements⟩ := of_decide_eq_true hparts
  have hadmits : rules.Admits "рука" := (Option.all_eq_true _ _).1 hsatisfied
  cases hstrip : rules.strip with
  | pattern source p count => rw [hstrip] at hconcatenation; contradiction
  | concatenation suffix =>
    obtain rfl : suffix = "ка" := by rwa [hstrip] at hsuffix
    have hfits : rules.strip.Fits "рука" := by
      rw [hstrip]
      exact ⟨['р', 'у'], by decide⟩
    rcases generate_outcome htokens hrules "рука" with
      ⟨hnot, -⟩ | ⟨-, hnot, -⟩ | ⟨-, -, set, hset, hroot, hsize, -, -, -, hforms⟩
    · exact absurd hadmits hnot
    · exact absurd hfits hnot
    · obtain ⟨stem, hstem, hforms⟩ := hforms "ка" hstrip
      rw [hreplacements] at hsize hforms
      exact ⟨rules, set, hrules, hset, hroot, hsize, stem, hstem, hforms⟩

end RuleSet

end Inflection
