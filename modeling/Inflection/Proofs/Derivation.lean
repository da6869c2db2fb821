import Inflection.Derivation
import Inflection.Proofs.Rule.Generation
import Inflection.Proofs.Rule.Verdict

/-!
What comes of deriving a word. The tag of the word is looked at before its rule
and the rule before the root, and what fails first is reported; else the forms
are those that the rule text gives for the root.
-/

namespace Inflection

open Rule

namespace PartOfSpeech

/-- The tags of the parts of speech. -/
inductive Tagged : PartOfSpeech → String → Prop where
  | male : Tagged masculineNoun "noun_male"
  | female : Tagged noun "noun_female"
  | neutral : Tagged noun "noun_neutral"

theorem ofTag_eq_ok_iff {part : PartOfSpeech} {tag : String} :
    ofTag tag = .ok part ↔ part.Tagged tag := by
  constructor
  · intro h
    unfold ofTag at h
    split at h
    · rename_i hmale
      rw [← Except.ok.inj h, hmale]
      exact .male
    · split at h
      · rename_i hother
        rw [← Except.ok.inj h]
        rcases hother with hfemale | hneutral
        · rw [hfemale]
          exact .female
        · rw [hneutral]
          exact .neutral
      · contradiction
  · intro h
    cases h with
    | male | female | neutral => decide

theorem ofTag_of_not_tagged {tag : String} (h : ∀ part : PartOfSpeech, ¬ part.Tagged tag) :
    ofTag tag = .error (.unsupportedSpeechPart tag) := by
  unfold ofTag
  split
  · rename_i hmale
    rw [hmale] at h
    exact absurd .male (h masculineNoun)
  · split
    · rename_i hother
      rcases hother with hfemale | hneutral
      · rw [hfemale] at h
        exact absurd .female (h noun)
      · rw [hneutral] at h
        exact absurd .neutral (h noun)
    · rfl

end PartOfSpeech

section Text

variable {text root : String} {tokens : Tokens} {rules : RuleSet}

/-- A rule text with faults gives no forms. -/
theorem generate_of_failsBy {fault : Fault} (htokens : tokens.WrittenIn text)
    (hfault : tokens.FailsBy fault) : generate root text = .error (.rule fault.message) := by
  rw [generate, (RuleSet.ofText_eq_error_iff_failsBy htokens).2 hfault]
  rfl

/-- A rule text without faults gives the forms of its rule set. -/
theorem generate_of_ofText (hrules : RuleSet.ofText text = .ok rules) :
    generate root text = rules.outcome root := by
  rw [generate, hrules]
  rfl

end Text

namespace WordEntry

variable {entry : WordEntry} {part : PartOfSpeech}

/-- What comes of deriving a word, by what is first in the way. -/
inductive Derives (entry : WordEntry) : Except Error Derivation → Prop where
  | unsupported (htag : ∀ part : PartOfSpeech, ¬ part.Tagged entry.speechPart) :
      Derives entry (.error (.unsupportedSpeechPart entry.speechPart))
  | malformed {part : PartOfSpeech} {tokens : Tokens} {fault : Fault}
      (hpart : part.Tagged entry.speechPart) (htokens : tokens.WrittenIn entry.rules)
      (hfault : tokens.FailsBy fault) : Derives entry (.error (.rule fault.message))
  | refused {part : PartOfSpeech} {tokens : Tokens} {rules : RuleSet} {source : String}
      (hpart : part.Tagged entry.speechPart) (htokens : tokens.WrittenIn entry.rules)
      (hrules : RuleSet.ofText entry.rules = .ok rules)
      (hsource : tokens.precondition = some source) (hrefused : ¬ rules.Admits entry.root) :
      Derives entry (.error (.validation entry.root source (Condition.precondition source).message))
  | unfit {part : PartOfSpeech} {tokens : Tokens} {rules : RuleSet}
      (hpart : part.Tagged entry.speechPart) (htokens : tokens.WrittenIn entry.rules)
      (hrules : RuleSet.ofText entry.rules = .ok rules) (hadmits : rules.Admits entry.root)
      (hunfit : ¬ rules.strip.Fits entry.root) :
      Derives entry (.error (.validation entry.root tokens.ending rules.strip.unmet.message))
  | derived {part : PartOfSpeech} {rules : RuleSet} {forms : FormSet}
      (hpart : part.Tagged entry.speechPart) (hrules : RuleSet.ofText entry.rules = .ok rules)
      (hadmits : rules.Admits entry.root) (hfits : rules.strip.Fits entry.root)
      (hforms : generate entry.root entry.rules = .ok forms) (hroot : forms.root = entry.root) :
      Derives entry (.ok ⟨entry, part, forms, forms.slots part⟩)

/-- A word with a tag has the forms that its rule text gives for its root. -/
theorem derive_of_tagged (h : part.Tagged entry.speechPart) :
    entry.derive = (generate entry.root entry.rules).map fun forms =>
      ⟨entry, part, forms, forms.slots part⟩ := by
  rw [derive, partOfSpeech, PartOfSpeech.ofTag_eq_ok_iff.2 h, ruleSet]
  cases hrules : RuleSet.ofText entry.rules with
  | error fault =>
    rw [generate, hrules]
    rfl
  | ok rules =>
    rw [generate_of_ofText hrules, RuleSet.outcome]
    change (((rules.generate entry.root).mapError Misfit.toError).bind fun forms =>
      .ok (Derivation.mk entry part forms (forms.slots part))) = _
    cases rules.generate entry.root with
    | error misfit => rfl
    | ok forms => rfl

theorem derive_of_not_tagged (h : ∀ part : PartOfSpeech, ¬ part.Tagged entry.speechPart) :
    entry.derive = .error (.unsupportedSpeechPart entry.speechPart) := by
  rw [derive, partOfSpeech, PartOfSpeech.ofTag_of_not_tagged h]
  rfl

theorem Derives.derive_eq {result : Except Error Derivation} (h : entry.Derives result) :
    entry.derive = result := by
  cases h with
  | unsupported htag => exact derive_of_not_tagged htag
  | malformed hpart htokens hfault =>
    rw [derive_of_tagged hpart, generate_of_failsBy htokens hfault]
    rfl
  | refused hpart htokens hrules hsource hrefused =>
    have hdeclared := RuleSet.declaredBy_of_ofText htokens hrules
    obtain ⟨source, hsource', hgenerate⟩ := RuleSet.generate_of_not_admits hdeclared hrefused
    obtain rfl := Option.some.inj (hsource.symm.trans hsource')
    rw [derive_of_tagged hpart, generate_of_ofText hrules, RuleSet.outcome, hgenerate]
    rfl
  | unfit hpart htokens hrules hadmits hunfit =>
    have hdeclared := RuleSet.declaredBy_of_ofText htokens hrules
    obtain ⟨hending, hgenerate⟩ := RuleSet.generate_of_not_fits hdeclared hadmits hunfit
    rw [derive_of_tagged hpart, generate_of_ofText hrules, RuleSet.outcome, hgenerate, ← hending]
    rfl
  | derived hpart _ _ _ hforms _ =>
    rw [derive_of_tagged hpart, hforms]
    rfl

theorem exists_derives (entry : WordEntry) : ∃ result, entry.Derives result := by
  by_cases htag : ∃ part : PartOfSpeech, part.Tagged entry.speechPart
  · obtain ⟨part, hpart⟩ := htag
    obtain ⟨tokens, htokens⟩ := Tokens.exists_writtenIn entry.rules
    cases hrules : RuleSet.ofText entry.rules with
    | error fault =>
      exact ⟨_, .malformed hpart htokens ((RuleSet.ofText_eq_error_iff_failsBy htokens).1 hrules)⟩
    | ok rules =>
      have hdeclared := RuleSet.declaredBy_of_ofText htokens hrules
      by_cases hadmits : rules.Admits entry.root
      · by_cases hfits : rules.strip.Fits entry.root
        · obtain ⟨form, -, -, hgenerate⟩ := RuleSet.exists_generate_eq hdeclared hadmits hfits
          have hforms : generate entry.root entry.rules =
              .ok ⟨entry.root, rules.replacements.map form⟩ := by
            rw [generate_of_ofText hrules, RuleSet.outcome, hgenerate]
            rfl
          exact ⟨_, .derived hpart hrules hadmits hfits hforms rfl⟩
        · exact ⟨_, .unfit hpart htokens hrules hadmits hfits⟩
      · obtain ⟨source, hsource, -⟩ := RuleSet.generate_of_not_admits hdeclared hadmits
        exact ⟨_, .refused hpart htokens hrules hsource hadmits⟩
  · exact ⟨_, .unsupported (not_exists.1 htag)⟩

theorem derive_eq_iff {result : Except Error Derivation} :
    entry.derive = result ↔ entry.Derives result := by
  constructor
  · intro h
    obtain ⟨outcome, houtcome⟩ := entry.exists_derives
    rw [← h, houtcome.derive_eq]
    exact houtcome
  · exact Derives.derive_eq

/-- The forms of a word that is derived are those of the rule set that its rule text declares. -/
theorem exists_declaredBy {derivation : Derivation} (h : entry.derive = .ok derivation) :
    derivation.entry = entry ∧ derivation.partOfSpeech.Tagged entry.speechPart ∧
      derivation.slots = derivation.forms.slots derivation.partOfSpeech ∧
      ∃ (tokens : Tokens) (rules : RuleSet), tokens.WrittenIn entry.rules ∧
        rules.DeclaredBy tokens ∧ rules.generate entry.root = .ok derivation.forms := by
  cases derive_eq_iff.1 h with
  | derived hpart hrules hadmits hfits hforms hroot =>
    obtain ⟨tokens, htokens⟩ := Tokens.exists_writtenIn entry.rules
    refine ⟨rfl, hpart, rfl, tokens, _, htokens, RuleSet.declaredBy_of_ofText htokens hrules, ?_⟩
    rw [generate_of_ofText hrules, RuleSet.outcome] at hforms
    exact mapError_eq_ok_iff.1 hforms

end WordEntry

/-- What comes of deriving the word with an id. -/
inductive Lexicon.Derives (lexicon : Lexicon) (id : UInt64) : Except Error Derivation → Prop where
  | unknown (hword : lexicon.word? id = none) :
      Derives lexicon id (.error (.lookup ("the word " ++ toString id.toNat ++ " is unknown")))
  | known {entry : WordEntry} {result : Except Error Derivation}
      (hword : lexicon.word? id = some entry) (hresult : entry.Derives result) :
      Derives lexicon id result

namespace Dictionary

variable {left right dictionary : Dictionary} {id : UInt64} {entry : WordEntry}

/-- The forms of a word are derived from the word alone. -/
theorem derive_eq_of_word? (h : left.word? id = right.word? id) :
    left.derive id = right.derive id := by
  rw [derive, derive, Dictionary.entry, Dictionary.entry, h]

theorem derive_of_word? (h : dictionary.word? id = .ok (some entry)) :
    dictionary.derive id = entry.derive := by
  rw [derive, Dictionary.entry, h]
  rfl

theorem derive_of_unknown (h : dictionary.word? id = .ok none) :
    dictionary.derive id =
      .error (.lookup ("the word " ++ toString id.toNat ++ " is unknown")) := by
  rw [derive, Dictionary.entry, h]
  rfl

/-- A word that is derived is the one with the id. -/
theorem exists_entry {derivation : Derivation} (h : dictionary.derive id = .ok derivation) :
    ∃ entry : WordEntry, dictionary.word? id = .ok (some entry) ∧
      entry.derive = .ok derivation := by
  obtain ⟨entry, hentry, hderive⟩ := bind_eq_ok_iff.1 h
  obtain ⟨word?, hword, hsome⟩ := bind_eq_ok_iff.1 hentry
  cases word? with
  | none => contradiction
  | some found =>
    rw [← Except.ok.inj hsome] at hderive
    exact ⟨found, hword, hderive⟩

end Dictionary

/-- Every id of a lexicon has one outcome. -/
theorem Lexicon.derive_eq_iff {lexicon : Lexicon} {id : UInt64} {result : Except Error Derivation} :
    lexicon.dictionary.derive id = result ↔ lexicon.Derives id result := by
  cases hword : lexicon.word? id with
  | none =>
    rw [Dictionary.derive_of_unknown (congrArg Except.ok hword)]
    constructor
    · intro h
      rw [← h]
      exact .unknown hword
    · intro h
      cases h with
      | unknown => rfl
      | known hword' => simp [hword] at hword'
  | some entry =>
    rw [Dictionary.derive_of_word? (congrArg Except.ok hword), WordEntry.derive_eq_iff]
    constructor
    · intro h
      exact .known hword h
    · intro h
      cases h with
      | unknown hword' => simp [hword] at hword'
      | known hword' hresult =>
        rw [Option.some.inj (hword.symm.trans hword')]
        exact hresult

end Inflection
