import Inflection.Rule.RuleSet

/-!
What a rule set that has been read has in common with the lines that declare
it, and which part of a declaration has which fault.
-/

namespace Inflection

section Outcome

variable {ε α β : Type} {x : Except ε α} {f : α → Except ε β}

theorem bind_eq_ok_iff {b : β} : x >>= f = .ok b ↔ ∃ a, x = .ok a ∧ f a = .ok b := by
  cases x <;> simp [bind, Except.bind]

theorem bind_eq_error_iff {e : ε} :
    x >>= f = .error e ↔ x = .error e ∨ ∃ a, x = .ok a ∧ f a = .error e := by
  cases x <;> simp [bind, Except.bind]

theorem map_eq_ok_iff {g : α → β} {b : β} : x.map g = .ok b ↔ ∃ a, x = .ok a ∧ g a = b := by
  cases x <;> simp [Except.map]

theorem map_eq_error_iff {g : α → β} {e : ε} : x.map g = .error e ↔ x = .error e := by
  cases x <;> simp [Except.map]

theorem mapError_eq_ok_iff {ε' : Type} {g : ε → ε'} {a : α} :
    x.mapError g = .ok a ↔ x = .ok a := by
  cases x with
  | error e =>
    constructor
    · intro h
      contradiction
    · intro h
      contradiction
  | ok b =>
    change Except.ok b = Except.ok a ↔ Except.ok b = Except.ok a
    simp only [Except.ok.injEq]

theorem exists_eq_ok_of_any {p : α → Bool} (h : x.toOption.any p = true) :
    ∃ a, x = .ok a ∧ p a = true := by
  cases x with
  | error e => contradiction
  | ok a => exact ⟨a, rfl, h⟩

end Outcome

namespace Rule

theorem Precondition.ofSource_eq_ok_iff {source : String} {condition : Precondition} :
    Precondition.ofSource source = .ok condition ↔ condition.source = source ∧
      Pattern.ofText? (Precondition.patternText source) = some condition.pattern := by
  unfold Precondition.ofSource
  cases Pattern.ofText? (Precondition.patternText source) with
  | none => simp
  | some pattern =>
    simp only [Except.ok.injEq, Option.some.injEq]
    constructor
    · rintro rfl
      exact ⟨rfl, rfl⟩
    · rintro ⟨rfl, rfl⟩
      rfl

theorem Precondition.ofSource_eq_error_iff {source : String} {fault : Fault} :
    Precondition.ofSource source = .error fault ↔ fault = .invalidPrecondition source ∧
      Pattern.ofText? (Precondition.patternText source) = none := by
  unfold Precondition.ofSource
  cases Pattern.ofText? (Precondition.patternText source) <;> simp [eq_comm]

/-- The faults of an ending are not those of a condition. -/
theorem Strip.ofEnding_ne_invalidPrecondition (ending source : String) :
    Strip.ofEnding ending ≠ .error (.invalidPrecondition source) := by
  have hitems (state : Option (List Char)) (text : List Char) :
      Ending.itemsFrom ending state text ≠ .error (.invalidPrecondition source) := by
    fun_induction Ending.itemsFrom ending state text with
    | case1 | case4 | case6 => simp
    | case2 rest ih => exact ih
    | case3 c rest hc ih => cases h : Ending.itemsFrom ending none rest <;> simp_all [Except.map]
    | case5 classText c rest hc ih => exact ih
    | case7 classText c rest hc hne ih =>
      cases h : Ending.itemsFrom ending none rest <;> simp_all [Except.map]
  unfold Strip.ofEnding
  split
  · simp
  · split
    · simp
    · rw [Ne, bind_eq_error_iff]
      rintro (h | ⟨items, -, h⟩)
      · exact hitems none ending.toList h
      · split at h <;> simp at h

theorem Strip.ofEnding_eq_concatenation {ending suffix : String}
    (h : Strip.ofEnding ending = .ok (.concatenation suffix)) :
    suffix = if ending = "0" then "" else ending := by
  unfold Strip.ofEnding at h
  split at h
  · rename_i hzero
    cases h
    rw [if_pos hzero]
  · rename_i hzero
    rw [if_neg hzero]
    split at h
    · cases h
      rfl
    · obtain ⟨items, -, h⟩ := bind_eq_ok_iff.1 h
      split at h <;> cases h

theorem Strip.ofEnding_eq_pattern {ending source : String} {p : Pattern} {captures : Nat}
    (h : Strip.ofEnding ending = .ok (.pattern source p captures)) :
    source = ending ∧ ∃ items, Ending.items ending = .ok items ∧
      Pattern.ofText? (Ending.patternText items) = some p ∧ captures = Ending.captures items := by
  unfold Strip.ofEnding at h
  split at h
  · cases h
  · split at h
    · cases h
    · obtain ⟨items, hitems, h⟩ := bind_eq_ok_iff.1 h
      split at h
      · rename_i hpattern
        cases h
        exact ⟨rfl, items, hitems, hpattern, rfl⟩
      · cases h

/-- An ending is stripped as a pattern just if it has a bracket. -/
theorem Strip.isPattern_of_ofEnding {ending : String} {strip : Strip}
    (h : Strip.ofEnding ending = .ok strip) : strip.isPattern = true ↔ '[' ∈ ending.toList := by
  unfold Strip.ofEnding at h
  split at h
  · rename_i hzero
    rw [← Except.ok.inj h, hzero]
    decide
  · split at h
    · rename_i hmem
      rw [← Except.ok.inj h]
      simp [Strip.isPattern, hmem]
    · rename_i hmem
      obtain ⟨items, -, h⟩ := bind_eq_ok_iff.1 h
      split at h
      · rw [← Except.ok.inj h]
        exact iff_of_true rfl (Decidable.not_not.1 hmem)
      · contradiction

end Rule

open Rule

namespace RuleSet

/-- Replacements that are not refused refer to no more characters than are kept. -/
theorem references_le_of_checkReferences {source : String} {p : Pattern} {captures : Nat}
    {replacements : List Replacement}
    (h : checkReferences (.pattern source p captures) replacements = .ok ()) :
    ∀ replacement ∈ replacements, replacement.references ≤ captures := by
  unfold checkReferences at h
  split at h
  · contradiction
  · rename_i heq
    obtain ⟨rfl, rfl, rfl⟩ := Strip.pattern.inj heq
    split at h
    · contradiction
    · rename_i hnone
      intro replacement hmem
      obtain ⟨position, hposition⟩ := List.getElem?_of_mem hmem
      have hnone := List.find?_eq_none.1 (Option.map_eq_none_iff.1 hnone) (replacement, position)
        (List.mem_zipIdx_iff_getElem?.2 hposition)
      simpa using hnone

/-- What the lines of a rule text say about the rule set that they declare. -/
structure DeclaredBy (rules : RuleSet) (tokens : Tokens) : Prop where
  entries : tokens.entries ≠ []
  precondition : preconditionOf tokens.precondition = .ok rules.precondition
  strip : Strip.ofEnding tokens.ending = .ok rules.strip
  replacements : rules.replacements = tokens.entries.map Replacement.ofEntry
  references : checkReferences rules.strip rules.replacements = .ok ()

/-- The condition of a rule is compiled from its own text. -/
theorem DeclaredBy.pattern_of_mem {rules : RuleSet} {tokens : Tokens} (h : rules.DeclaredBy tokens)
    {condition : Precondition} (hcondition : condition ∈ rules.precondition) :
    tokens.precondition = some condition.source ∧
      Pattern.ofText? (Precondition.patternText condition.source) = some condition.pattern := by
  have hprecondition := h.precondition
  rw [Option.mem_def.1 hcondition] at hprecondition
  cases hsource : tokens.precondition with
  | none =>
    rw [hsource] at hprecondition
    cases hprecondition
  | some source =>
    rw [hsource] at hprecondition
    obtain ⟨_, hof, heq⟩ := map_eq_ok_iff.1 hprecondition
    obtain rfl := Option.some.inj heq
    obtain ⟨rfl, hpattern⟩ := Precondition.ofSource_eq_ok_iff.1 hof
    exact ⟨rfl, hpattern⟩

theorem ofTokens_of_ne_nil {tokens : Tokens} (h : tokens.entries ≠ []) :
    ofTokens tokens = do
      let precondition ← preconditionOf tokens.precondition
      let strip ← Strip.ofEnding tokens.ending
      let replacements := tokens.entries.map Replacement.ofEntry
      checkReferences strip replacements
      return { precondition, strip, replacements } := by
  unfold ofTokens
  rw [if_neg (by simpa using h)]

theorem ofTokens_eq_ok_iff {tokens : Tokens} {rules : RuleSet} :
    ofTokens tokens = .ok rules ↔ rules.DeclaredBy tokens := by
  by_cases hentries : tokens.entries = []
  · constructor
    · intro h
      simp [ofTokens, hentries, throw, throwThe, MonadExceptOf.throw, bind, Except.bind] at h
    · exact fun h => absurd hentries h.entries
  · rw [ofTokens_of_ne_nil hentries]
    simp only [bind_eq_ok_iff]
    constructor
    · rintro ⟨precondition, hprecondition, strip, hstrip, _, hreferences, h⟩
      obtain rfl := Except.ok.inj h
      exact ⟨hentries, hprecondition, hstrip, rfl, hreferences⟩
    · rintro ⟨-, hprecondition, hstrip, hreplacements, hreferences⟩
      rw [hreplacements] at hreferences
      refine ⟨_, hprecondition, _, hstrip, (), hreferences, ?_⟩
      rw [← hreplacements]
      rfl

theorem ofText_eq_ok_iff {text : String} {rules : RuleSet} :
    ofText text = .ok rules ↔ ∃ tokens, Tokens.ofText text = .ok tokens ∧ rules.DeclaredBy tokens := by
  simp only [ofText, bind_eq_ok_iff, ofTokens_eq_ok_iff]

theorem checkReferences_ne_invalidPrecondition {strip : Strip} {replacements : List Replacement}
    {source : String} : checkReferences strip replacements ≠ .error (.invalidPrecondition source) := by
  unfold checkReferences
  split
  · simp
  · split <;> simp

/-- A rule text is refused for its condition just if the condition has no pattern. -/
theorem ofText_eq_error_invalidPrecondition_iff {text source : String} {tokens : Tokens}
    (htokens : Tokens.ofText text = .ok tokens) (hentries : tokens.entries ≠ [])
    (hsource : tokens.precondition = some source) :
    ofText text = .error (.invalidPrecondition source) ↔
      Pattern.ofText? (Precondition.patternText source) = none := by
  have hparts : ofText text = ofTokens tokens := by
    rw [ofText, htokens]
    rfl
  have hmap : preconditionOf (some source) = .error (.invalidPrecondition source) ↔
      Pattern.ofText? (Precondition.patternText source) = none := by
    rw [preconditionOf, map_eq_error_iff, Precondition.ofSource_eq_error_iff, eq_self, true_and]
  rw [hparts, ofTokens_of_ne_nil hentries, hsource, bind_eq_error_iff, hmap, or_iff_left]
  rintro ⟨precondition, -, h⟩
  simp only [bind_eq_error_iff] at h
  rcases h with h | ⟨strip, -, h | ⟨_, -, h⟩⟩
  · exact Strip.ofEnding_ne_invalidPrecondition tokens.ending source h
  · exact checkReferences_ne_invalidPrecondition h
  · contradiction

end RuleSet

end Inflection
