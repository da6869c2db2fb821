import Inflection.Derivation
import Inflection.FormSource
import Inflection.Proofs.Mapping

/-!
The verb forms that may be irregular are the participles and the conjugated forms
among them. It does not matter whether participles are looked for among the stored
forms or in the mapping that is made of these: of several forms with one
description the last one is kept in either case.
-/

namespace Inflection

namespace DescribedForm

/-- The last of the forms with a description. -/
def last? (forms : List DescribedForm) (description : String) : Option String :=
  (forms.filter (·.description = description)).getLast?.map (·.form)

theorem last?_filter (forms : List DescribedForm) (keeps : String → Bool) (description : String) :
    last? (forms.filter (keeps ·.description)) description =
      if keeps description then last? forms description else none := by
  have hsame : (forms.filter (keeps ·.description)).filter (·.description = description) =
      (forms.filter (·.description = description)).filter fun _ => keeps description := by
    rw [List.filter_filter, List.filter_filter]
    apply List.filter_congr
    intro form _
    by_cases h : form.description = description
    · simp [h]
    · simp [h]
  rw [last?, hsame]
  cases keeps description with
  | true => simp [last?]
  | false => simp

/-- Under a description that may be irregular the last form with it is found. -/
theorem getElem?_irregularForms (forms : List DescribedForm) (description : String) :
    (irregularForms forms)[description]? =
      if Description.isIrregular description then last? forms description else none := by
  rw [← last?_filter, irregularForms, Mapping.getElem?_ofEntries, List.filter_map,
    List.getLast?_map, Option.map_map]
  rfl

theorem getElem?_onlyParticiples (mapping : Mapping) (description : String) :
    (onlyParticiples mapping)[description]? =
      if Description.isParticiple description then mapping[description]? else none := by
  rw [onlyParticiples, Std.ExtTreeMap.getElem?_filter']
  cases Description.isParticiple description with
  | true => cases mapping[description]? <;> rfl
  | false => cases mapping[description]? <;> rfl

theorem onlyParticiples_idem (mapping : Mapping) :
    onlyParticiples (onlyParticiples mapping) = onlyParticiples mapping := by
  apply Std.ExtTreeMap.ext_getElem?
  intro description
  simp only [getElem?_onlyParticiples]
  split
  · rfl
  · rfl

end DescribedForm

namespace Description

theorem isIrregular_of_isParticiple {description : String} (h : isParticiple description = true) :
    isIrregular description = true := by
  rw [isIrregular, h, Bool.or_true]

/-- No description is that of a participle and of a conjugated form. -/
theorem not_mem_verbForms_of_isParticiple {description : String}
    (h : isParticiple description = true) : verbForms.contains description = false := by
  have hdisjoint : ∀ other ∈ participles, verbForms.contains other = false := by decide
  exact hdisjoint description (List.contains_iff_mem.1 h)

end Description

namespace DescribedForm

open Description (isParticiple isIrregular verbForms)

/-- The conjugated forms among some stored verb forms. -/
def conjugated (forms : List DescribedForm) : List DescribedForm :=
  forms.filter (verbForms.contains ·.description)

theorem getElem?_irregularParticiples (forms : List DescribedForm) (description : String) :
    (irregularParticiples forms)[description]? =
      if isParticiple description then last? forms description else none := by
  rw [irregularParticiples, getElem?_onlyParticiples, getElem?_irregularForms]
  split
  · rename_i h
    rw [if_pos (Description.isIrregular_of_isParticiple h)]
  · rfl

/-- Participles may be singled out before the mapping is made or after it. -/
theorem irregularForms_filter_isParticiple (forms : List DescribedForm) :
    irregularForms (forms.filter (isParticiple ·.description)) = irregularParticiples forms := by
  apply Std.ExtTreeMap.ext_getElem?
  intro description
  rw [getElem?_irregularForms, last?_filter, getElem?_irregularParticiples]
  split
  · rfl
  · rename_i h
    rw [if_neg (mt Description.isIrregular_of_isParticiple h)]

theorem getElem?_irregularForms_conjugated (forms : List DescribedForm) (description : String) :
    (irregularForms (conjugated forms))[description]? =
      if verbForms.contains description then last? forms description else none := by
  rw [getElem?_irregularForms, conjugated, last?_filter, isIrregular]
  cases verbForms.contains description with
  | true => rfl
  | false => exact ite_self none

theorem getElem?_irregularForms_union (forms : List DescribedForm) (description : String) :
    (irregularForms forms)[description]? = ((irregularParticiples forms)[description]?).or
      (irregularForms (conjugated forms))[description]? := by
  rw [getElem?_irregularForms, getElem?_irregularParticiples, getElem?_irregularForms_conjugated,
    isIrregular]
  cases isParticiple description with
  | true => cases verbForms.contains description <;> cases last? forms description <;> rfl
  | false => cases verbForms.contains description <;> rfl

theorem not_mem_conjugated_of_mem {forms : List DescribedForm} {description : String}
    (h : description ∈ irregularParticiples forms) :
    description ∉ irregularForms (conjugated forms) := by
  rw [Std.ExtTreeMap.mem_iff_isSome_getElem?, getElem?_irregularParticiples] at h
  rw [Std.ExtTreeMap.mem_iff_isSome_getElem?, getElem?_irregularForms_conjugated]
  cases hparticiple : isParticiple description with
  | true =>
    rw [Description.not_mem_verbForms_of_isParticiple hparticiple]
    exact Bool.false_ne_true
  | false =>
    rw [hparticiple] at h
    contradiction

/-- All ways to the participles of a word give one mapping, in which a participle has the last form
that is stored with its description. The mapping of the verb forms is made of this one and of that
of the conjugated forms, which have no description in common. To single out participles takes
entries away from a mapping, and nothing more the second time. -/
theorem participle_law {dictionary : Dictionary} {id : UInt64} {forms : List DescribedForm}
    (hforms : dictionary.formsOf id = .ok forms) :
    ∃ participles conjugates : Mapping,
      ((FormSource.participles forms).mapping = participles ∧
        onlyParticiples (FormSource.verb forms).mapping = participles ∧
        irregularForms (forms.filter (·.description ∈ Description.participles)) = participles ∧
        dictionary.irregularParticiples id = .ok participles) ∧
      (∀ description : String, participles[description]? =
        if description ∈ Description.participles then last? forms description else none) ∧
      (irregularForms (forms.filter (·.description ∈ verbForms)) = conjugates ∧
        ∀ description : String, conjugates[description]? =
          if description ∈ verbForms then last? forms description else none) ∧
      (∀ description : String, (FormSource.verb forms).mapping[description]? =
        (participles[description]?).or conjugates[description]?) ∧
      (∀ description ∈ participles, description ∉ conjugates) ∧
      ∀ mapping : Mapping, onlyParticiples (onlyParticiples mapping) = onlyParticiples mapping ∧
        ∀ (description form : String), (onlyParticiples mapping)[description]? = some form →
          mapping[description]? = some form := by
  have hparticiples (description : String) :
      isParticiple description = decide (description ∈ Description.participles) := by
    rw [isParticiple, List.contains_eq_mem]
  have hconjugated : conjugated forms = forms.filter (·.description ∈ verbForms) := by
    simp only [conjugated, List.contains_eq_mem]
  refine ⟨irregularParticiples forms, irregularForms (conjugated forms),
    ⟨rfl, rfl, ?_, ?_⟩, ?_, ⟨congrArg irregularForms hconjugated.symm, ?_⟩,
    getElem?_irregularForms_union forms, fun _ => not_mem_conjugated_of_mem, ?_⟩
  · rw [← irregularForms_filter_isParticiple]
    simp only [hparticiples]
  · rw [Dictionary.irregularParticiples, Dictionary.irregularForms, hforms]
    rfl
  · intro description
    simp only [getElem?_irregularParticiples, hparticiples, decide_eq_true_eq]
  · intro description
    simp only [getElem?_irregularForms_conjugated, List.contains_eq_mem, decide_eq_true_eq]
  · intro mapping
    refine ⟨onlyParticiples_idem mapping, ?_⟩
    intro description form hform
    rw [getElem?_onlyParticiples] at hform
    split at hform
    · exact hform
    · contradiction

/-- A verb with a participle that is stored twice, a conjugated form between them, and a form that
is regular. -/
theorem participle_law_repeated : ∃ (dictionary : Dictionary) (participles : Mapping),
    dictionary.formsOf 3 = .ok [⟨"бил", "мин.деят.св.прич. м.р."⟩, ⟨"съм", "сег.вр., 1л., ед.ч."⟩,
      ⟨"бивал", "мин.деят.св.прич. м.р."⟩, ⟨"сме", "сег.вр., 1л., мн.ч."⟩] ∧
    dictionary.irregularParticiples 3 = .ok participles ∧
    participles["мин.деят.св.прич. м.р."]? = some "бивал" ∧
    participles["сег.вр., 1л., ед.ч."]? = none := by
  obtain ⟨dictionary, hforms⟩ : ∃ dictionary : Dictionary, dictionary.formsOf 3 =
      .ok [⟨"бил", "мин.деят.св.прич. м.р."⟩, ⟨"съм", "сег.вр., 1л., ед.ч."⟩,
        ⟨"бивал", "мин.деят.св.прич. м.р."⟩, ⟨"сме", "сег.вр., 1л., мн.ч."⟩] :=
    ⟨(((((({} : Lexicon).insertForm 3 ⟨"бил", "мин.деят.св.прич. м.р."⟩).insertForm 3
      ⟨"съм", "сег.вр., 1л., ед.ч."⟩).insertForm 3 ⟨"бивал", "мин.деят.св.прич. м.р."⟩).insertForm 3
      ⟨"сме", "сег.вр., 1л., мн.ч."⟩)).dictionary, by decide +kernel⟩
  obtain ⟨participles, conjugates, ⟨-, -, -, hword⟩, hlast, -⟩ := participle_law hforms
  refine ⟨dictionary, participles, hforms, hword, ?_, ?_⟩
  · rw [hlast]
    decide +kernel
  · rw [hlast]
    decide +kernel

end DescribedForm

end Inflection
