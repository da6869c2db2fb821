import Inflection.Proofs.Rule.Verdict
import Inflection.Rule.Generation

/-!
Equality of rule sets. It looks only at the texts that were declared, but rule sets
that have been read are equal in all their parts if these texts are the same, since
whatever was compiled was compiled from them.
-/

namespace Inflection

namespace Rule

/-- The text at the end of a root that an ending declares. The ending `0` declares none. -/
def Ending.declared (ending : String) : String :=
  if ending = "0" then "" else ending

namespace Strip

variable {strip strip' : Strip} {ending ending' : String}

/-- Ways to strip are compared by their kind and by the ending that was declared. -/
theorem beq_iff : (strip == strip') = true ↔
    strip.isPattern = strip'.isPattern ∧ strip.source = strip'.source := by
  cases strip with
  | concatenation suffix =>
    cases strip' with
    | concatenation suffix' =>
      have hbeq : (concatenation suffix == concatenation suffix') = (suffix == suffix') := rfl
      simp [hbeq, isPattern, source]
    | pattern source' p' captures' =>
      exact iff_of_false Bool.false_ne_true fun h => Bool.false_ne_true h.1
  | pattern source p captures =>
    cases strip' with
    | concatenation suffix' =>
      exact iff_of_false Bool.false_ne_true fun h => Bool.false_ne_true h.1.symm
    | pattern source' p' captures' =>
      have hbeq : (pattern source p captures == pattern source' p' captures') =
        (source == source') := rfl
      simp [hbeq, isPattern, Strip.source]

theorem source_of_ofEnding (h : ofEnding ending = .ok strip) :
    strip.source = Ending.declared ending := by
  cases strip with
  | concatenation suffix => exact ofEnding_eq_concatenation h
  | pattern source p captures =>
    obtain ⟨rfl, -⟩ := ofEnding_eq_pattern h
    have hzero : source ≠ "0" := by
      rintro rfl
      have hbracket := (isPattern_of_ofEnding h).1 rfl
      revert hbracket
      decide
    rw [Ending.declared, if_neg hzero]
    rfl

/-- Endings that declare the same text are stripped in the same way. -/
theorem ofEnding_congr (h : Ending.declared ending = Ending.declared ending') :
    ofEnding ending = ofEnding ending' := by
  have hnormal (ending : String) : ofEnding ending = ofEnding (Ending.declared ending) := by
    by_cases hzero : ending = "0"
    · rw [hzero]
      rfl
    · rw [Ending.declared, if_neg hzero]
  rw [hnormal ending, hnormal ending', h]

/-- Ways to strip are equal just if their endings declare the same text. -/
theorem beq_iff_of_ofEnding (h : ofEnding ending = .ok strip) (h' : ofEnding ending' = .ok strip') :
    (strip == strip') = true ↔ Ending.declared ending = Ending.declared ending' := by
  rw [beq_iff, source_of_ofEnding h, source_of_ofEnding h', and_iff_right_iff_imp]
  intro hdeclared
  have hsame := ofEnding_congr hdeclared
  rw [h, h'] at hsame
  rw [Except.ok.inj hsame]

end Strip

/-- An entry is told by the replacement that it writes. -/
theorem Replacement.ofEntry_injective : Function.Injective Replacement.ofEntry := by
  intro entry entry' h
  have hwrites := writes_ofEntry entry
  have hwrites' := writes_ofEntry entry'
  rw [← h] at hwrites'
  generalize Replacement.ofEntry entry = replacement at hwrites hwrites'
  cases hwrites with
  | empty => cases hwrites'; rfl
  | absent => cases hwrites'; rfl
  | literal => cases hwrites'; rfl

end Rule

open Rule

namespace RuleSet

section Equality

variable {rules rules' : RuleSet} {tokens tokens' : Tokens}

theorem beq_eq : (rules == rules') = (rules.precondition == rules'.precondition &&
    rules.strip == rules'.strip && rules.replacements == rules'.replacements) :=
  rfl

theorem precondition_beq_iff (h : rules.DeclaredBy tokens) (h' : rules'.DeclaredBy tokens') :
    (rules.precondition == rules'.precondition) = true ↔
      tokens.precondition = tokens'.precondition := by
  rw [← h.write.source, ← h'.write.source]
  cases rules.precondition with
  | none => cases rules'.precondition <;> simp
  | some condition =>
    cases rules'.precondition with
    | none => simp
    | some condition' =>
      have hbeq :
          (some condition == some condition') = (condition.source == condition'.source) := rfl
      simp [hbeq]

/-- Rule sets are equal just if the same is declared by their tokens. -/
theorem beq_iff_of_declaredBy (h : rules.DeclaredBy tokens) (h' : rules'.DeclaredBy tokens') :
    (rules == rules') = true ↔ tokens.precondition = tokens'.precondition ∧
      Ending.declared tokens.ending = Ending.declared tokens'.ending ∧
        tokens.entries = tokens'.entries := by
  rw [beq_eq, Bool.and_eq_true, Bool.and_eq_true, precondition_beq_iff h h',
    Strip.beq_iff_of_ofEnding h.strip h'.strip, beq_iff_eq, h.replacements, h'.replacements,
    Replacement.ofEntry_injective.list_map.eq_iff, and_assoc]

/-- Equal rule sets have the same parts, those included that are not compared. -/
theorem eq_of_beq (h : rules.DeclaredBy tokens) (h' : rules'.DeclaredBy tokens')
    (hequal : (rules == rules') = true) : rules = rules' := by
  obtain ⟨hprecondition, hending, hentries⟩ := (beq_iff_of_declaredBy h h').1 hequal
  have hconditions := h'.precondition
  rw [← hprecondition, h.precondition] at hconditions
  have hstrips := h'.strip
  rw [← Strip.ofEnding_congr hending, h.strip] at hstrips
  have hreplacements : rules.replacements = rules'.replacements := by
    rw [h.replacements, h'.replacements, hentries]
  obtain ⟨precondition, strip, replacements⟩ := rules
  obtain rfl := Except.ok.inj hconditions
  obtain rfl := Except.ok.inj hstrips
  obtain rfl := hreplacements
  rfl

end Equality

/-- What equality of rule sets says. Two rule texts that are read give equal rule sets just if they
declare the same condition and the same text at the end of roots and hold the same entries. The
forms of a root, or the condition that it fails, are then the same by both. -/
theorem equality_law {text text' : String} {rules rules' : RuleSet} {tokens tokens' : Tokens}
    (htokens : tokens.WrittenIn text) (htokens' : tokens'.WrittenIn text')
    (hrules : ofText text = .ok rules) (hrules' : ofText text' = .ok rules') :
    ((rules == rules') = true ↔ tokens.precondition = tokens'.precondition ∧
      Ending.declared tokens.ending = Ending.declared tokens'.ending ∧
        tokens.entries = tokens'.entries) ∧
    ((rules == rules') = true → ∀ root, rules.generate root = rules'.generate root) := by
  have hdeclared := declaredBy_of_ofText htokens hrules
  have hdeclared' := declaredBy_of_ofText htokens' hrules'
  refine ⟨beq_iff_of_declaredBy hdeclared hdeclared', ?_⟩
  intro hequal root
  rw [eq_of_beq hdeclared hdeclared' hequal]

/-- An empty ending that is written in two ways, with the lines ended in two ways and with
placeholders at other places, and a root that fails the condition. -/
theorem equality_law_empty : ∃ rules rules',
    ofText "0, [аеу]к|ь\r\n0\r\n-\r\n\\-\r\nа" = .ok rules ∧
    ofText ", [аеу]к|ь\n\n0\n\\-\nа\n-\n" = .ok rules' ∧ (rules == rules') = true ∧
      rules.generate "рука" = .error (.unfit "рука" (.precondition "[аеу]к|ь")) ∧
      rules'.generate "рука" = .error (.unfit "рука" (.precondition "[аеу]к|ь")) := by
  have hmisfit : (ofText "0, [аеу]к|ь\r\n0\r\n-\r\n\\-\r\nа").toOption.any (fun rules =>
      rules.generate "рука" = .error (.unfit "рука" (.precondition "[аеу]к|ь"))) = true := by
    decide +kernel
  have hparts' : (ofText ", [аеу]к|ь\n\n0\n\\-\nа\n-\n").toOption.any (fun rules =>
      rules.replacements = [.empty, .absent, .literal "а"]) = true := by
    decide +kernel
  have hread : Tokens.ofText "0, [аеу]к|ь\r\n0\r\n-\r\n\\-\r\nа" =
      .ok ⟨"0", some "[аеу]к|ь", ["0", "\\-", "а"]⟩ := by
    decide +kernel
  have hread' : Tokens.ofText ", [аеу]к|ь\n\n0\n\\-\nа\n-\n" =
      .ok ⟨"", some "[аеу]к|ь", ["0", "\\-", "а"]⟩ := by
    decide +kernel
  obtain ⟨rules, hrules, hmisfit⟩ := exists_eq_ok_of_any hmisfit
  obtain ⟨rules', hrules', -⟩ := exists_eq_ok_of_any hparts'
  obtain ⟨tokens, htokens⟩ := Tokens.exists_writtenIn "0, [аеу]к|ь\r\n0\r\n-\r\n\\-\r\nа"
  obtain ⟨tokens', htokens'⟩ := Tokens.exists_writtenIn ", [аеу]к|ь\n\n0\n\\-\nа\n-\n"
  obtain ⟨hexact, hsound⟩ := equality_law htokens htokens' hrules hrules'
  have hequal : (rules == rules') = true := by
    rw [hexact, ← htokens.eq_of_ofText hread, ← htokens'.eq_of_ofText hread']
    decide
  refine ⟨rules, rules', hrules, hrules', hequal, of_decide_eq_true hmisfit, ?_⟩
  rw [← hsound hequal]
  exact of_decide_eq_true hmisfit

end RuleSet

end Inflection
