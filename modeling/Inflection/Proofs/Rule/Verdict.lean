import Mathlib.Data.List.Forall2
import Inflection.Proofs.Rule.Faults

/-!
The verdict on a rule text. The faults of a text are those that its tokens have,
each said without the others. The text is refused for the first of them in the
order in which they are looked for, and if it has none it is accepted as what
its tokens say.
-/

namespace Inflection

namespace Rule

open Ending (BreaksBefore Item Spells)

/-- The place of a fault in the order in which faults are looked for. -/
def Fault.rank : Fault → Nat
  | noDeclaration => 0
  | noReplacements _ => 1
  | invalidPrecondition _ => 2
  | unterminatedClass _ | emptyClass _ => 3
  | invalidPattern _ => 4
  | tooManyReferences .. => 5

/-- Whether an entry refers to no more than so many characters. The marks for the stem itself and
for a form that does not exist refer to none. -/
def Refers (entry : String) (captures : Nat) : Prop :=
  entry = "0" ∨ entry = "\\-" ∨ entry.toList.count '?' ≤ captures

/-- What is wrong with the tokens of a rule text. Of the entries that refer to more characters than
there are classes only the first counts. -/
inductive Tokens.Has (tokens : Tokens) : Fault → Prop where
  | noDeclaration (h : tokens.IsUndeclared) : Has tokens .noDeclaration
  | noReplacements (h : tokens.entries = []) : Has tokens (.noReplacements tokens.ending)
  | invalidPrecondition {source : String} (hsource : tokens.precondition = some source)
      (h : Pattern.ofText? (Precondition.patternText source) = none) :
      Has tokens (.invalidPrecondition source)
  | unterminatedClass {rest : List Char} (hbreaks : BreaksBefore tokens.ending.toList rest)
      (h : ']' ∉ rest) : Has tokens (.unterminatedClass tokens.ending)
  | emptyClass {rest : List Char} (hbreaks : BreaksBefore tokens.ending.toList rest)
      (h : rest.head? = some ']') : Has tokens (.emptyClass tokens.ending)
  | invalidPattern {items : List Item} (hclasses : '[' ∈ tokens.ending.toList)
      (hspells : Spells tokens.ending items)
      (h : Pattern.ofText? (Ending.patternText items) = none) :
      Has tokens (.invalidPattern tokens.ending)
  | tooManyReferences {items : List Item} {position : Nat} {entry : String}
      (hclasses : '[' ∈ tokens.ending.toList) (hspells : Spells tokens.ending items)
      (hentry : tokens.entries[position]? = some entry)
      (h : ¬ Refers entry (Ending.captures items))
      (hfirst : ∀ earlier < position, ∀ other, tokens.entries[earlier]? = some other →
        Refers other (Ending.captures items)) :
      Has tokens (.tooManyReferences position (entry.toList.count '?') tokens.ending
        (Ending.captures items))

/-- Whether a fault comes first among those that tokens have. -/
def Tokens.FailsBy (tokens : Tokens) (fault : Fault) : Prop :=
  tokens.Has fault ∧ ∀ other, tokens.Has other → fault.rank ≤ other.rank

/-- The replacement that an entry writes. -/
inductive Writes : String → Replacement → Prop where
  | empty : Writes "0" .empty
  | absent : Writes "\\-" .absent
  | literal {entry : String} (hzero : entry ≠ "0") (hmark : entry ≠ "\\-") :
      Writes entry (.literal entry)

/-- Whether a way to strip is the one that an ending declares. -/
def Strip.IsFor (ending : String) : Strip → Prop
  | .concatenation suffix =>
    '[' ∉ ending.toList ∧ suffix = if ending = "0" then "" else ending
  | .pattern source p captures =>
    '[' ∈ ending.toList ∧ source = ending ∧ ∃ items, Spells ending items ∧
      Pattern.ofText? (Ending.patternText items) = some p ∧ captures = Ending.captures items

/-- Whether a rule set is the one that tokens write. -/
structure Tokens.Write (tokens : Tokens) (rules : RuleSet) : Prop where
  replacements : List.Forall₂ Writes tokens.entries rules.replacements
  source : rules.precondition.map Precondition.source = tokens.precondition
  compiled : ∀ condition ∈ rules.precondition,
    Pattern.ofText? (Precondition.patternText condition.source) = some condition.pattern
  strip : rules.strip.IsFor tokens.ending

theorem refers_iff {entry : String} {captures : Nat} :
    Refers entry captures ↔ (Replacement.ofEntry entry).references ≤ captures := by
  rw [Replacement.references_ofEntry, Refers]
  constructor
  · rintro (rfl | rfl | h)
    · exact Nat.zero_le captures
    · exact Nat.zero_le captures
    · exact h
  · intro h
    exact .inr (.inr h)

theorem writes_ofEntry (entry : String) : Writes entry (Replacement.ofEntry entry) := by
  unfold Replacement.ofEntry
  split
  · rename_i hzero
    rw [hzero]
    exact .empty
  · rename_i hzero
    split
    · rename_i hmark
      rw [hmark]
      exact .absent
    · rename_i hmark
      exact .literal hzero hmark

theorem Strip.isFor_of_ofEnding {ending : String} {strip : Strip}
    (h : Strip.ofEnding ending = .ok strip) : strip.IsFor ending := by
  have hclasses := Strip.isPattern_of_ofEnding h
  cases strip with
  | concatenation suffix =>
    refine ⟨?_, Strip.ofEnding_eq_concatenation h⟩
    intro hmem
    have hpattern := hclasses.2 hmem
    contradiction
  | pattern source p captures =>
    obtain ⟨hsource, items, hitems, hpattern, hcaptures⟩ := Strip.ofEnding_eq_pattern h
    exact ⟨hclasses.1 rfl, hsource, items, Ending.items_eq_ok_iff.1 hitems, hpattern, hcaptures⟩

namespace Tokens

variable {tokens : Tokens} {least middle most : Nat}

/-- Whether a fault comes first among those that tokens have with a rank of at least `least`. -/
def FailsFrom (tokens : Tokens) (least : Nat) (fault : Fault) : Prop :=
  tokens.Has fault ∧ least ≤ fault.rank ∧
    ∀ other, tokens.Has other → least ≤ other.rank → fault.rank ≤ other.rank

/-- Among the faults that tokens have there is a first. -/
theorem Has.exists_failsFrom {fault : Fault} (h : tokens.Has fault) (hleast : least ≤ fault.rank) :
    ∃ first, tokens.FailsFrom least first ∧ first.rank ≤ fault.rank := by
  by_cases hearlier : ∃ other, tokens.Has other ∧ least ≤ other.rank ∧ other.rank < fault.rank
  · obtain ⟨other, hother, hle, hlt⟩ := hearlier
    obtain ⟨first, hfirst, hrank⟩ := hother.exists_failsFrom hle
    exact ⟨first, hfirst, Nat.le_trans hrank (Nat.le_of_lt hlt)⟩
  · refine ⟨fault, ⟨h, hleast, ?_⟩, Nat.le_refl _⟩
    intro other hother hle
    have hlt : ¬ other.rank < fault.rank := fun hlt => hearlier ⟨other, hother, hle, hlt⟩
    omega
termination_by fault.rank

/-- Whether a check refuses tokens for the first of their faults with a rank from `least` up to
`most`. -/
def Finds {α : Type} (tokens : Tokens) (least most : Nat) (check : Except Fault α) : Prop :=
  ∀ fault, check = .error fault ↔ tokens.FailsFrom least fault ∧ fault.rank ≤ most

section Finds

variable {α β : Type} {x : Except Fault α} {f : α → Except Fault β}

/-- A check for faults of which tokens have at most one finds it. -/
theorem finds_of_iff
    (h : ∀ fault, x = .error fault ↔ tokens.Has fault ∧ least ≤ fault.rank ∧ fault.rank ≤ most) :
    tokens.Finds least most x := by
  intro fault
  rw [h]
  constructor
  · intro ⟨hhas, hleast, hmost⟩
    refine ⟨⟨hhas, hleast, ?_⟩, hmost⟩
    intro other hother hle
    by_cases hrank : other.rank ≤ most
    · have hfault := (h fault).2 ⟨hhas, hleast, hmost⟩
      have hsame := hfault.symm.trans ((h other).2 ⟨hother, hle, hrank⟩)
      exact Nat.le_of_eq (congrArg Fault.rank (Except.error.inj hsame))
    · omega
  · intro ⟨hfails, hmost⟩
    exact ⟨hfails.1, hfails.2.1, hmost⟩

/-- A check that looks for nothing finds nothing. -/
theorem finds_ok (a : α) : tokens.Finds (most + 1) most (.ok a) := by
  intro fault
  constructor
  · intro h
    contradiction
  · intro ⟨hfails, hmost⟩
    have hleast := hfails.2.1
    omega

/-- A check that passes has left no fault below its last rank. -/
theorem Finds.failsFrom_iff (h : tokens.Finds least middle x) (hle : least ≤ middle) {a : α}
    (hpassed : x = .ok a) {fault : Fault} :
    tokens.FailsFrom least fault ↔ tokens.FailsFrom (middle + 1) fault := by
  have hlater : ∀ other, tokens.Has other → least ≤ other.rank → middle + 1 ≤ other.rank := by
    intro other hother hleast
    obtain ⟨first, hfirst, hrank⟩ := hother.exists_failsFrom hleast
    by_cases hmiddle : first.rank ≤ middle
    · have hrefused := (h first).2 ⟨hfirst, hmiddle⟩
      rw [hpassed] at hrefused
      contradiction
    · omega
  constructor
  · intro ⟨hhas, hleast, hfirst⟩
    refine ⟨hhas, hlater fault hhas hleast, ?_⟩
    intro other hother hle'
    exact hfirst other hother (by omega)
  · intro ⟨hhas, hleast, hfirst⟩
    refine ⟨hhas, by omega, ?_⟩
    intro other hother hle'
    exact hfirst other hother (hlater other hother hle')

/-- Of two checks made one after the other the first to find a fault decides. -/
theorem Finds.bind (hx : tokens.Finds least middle x)
    (hf : ∀ a, x = .ok a → tokens.Finds (middle + 1) most (f a)) (hle : least ≤ middle)
    (hmost : middle ≤ most) : tokens.Finds least most (x >>= f) := by
  intro fault
  cases hresult : x with
  | error found =>
    obtain ⟨hfound, hmiddle⟩ := (hx found).1 hresult
    constructor
    · intro h
      rw [← Except.error.inj h]
      exact ⟨hfound, Nat.le_trans hmiddle hmost⟩
    · intro ⟨hfault, _⟩
      have hrank := hfault.2.2 found hfound.1 hfound.2.1
      have hsame := (hx fault).2 ⟨hfault, Nat.le_trans hrank hmiddle⟩
      rw [← hresult, hsame]
      rfl
  | ok a =>
    rw [hx.failsFrom_iff hle hresult]
    exact hf a hresult fault

end Finds

theorem failsFrom_zero_iff {fault : Fault} : tokens.FailsFrom 0 fault ↔ tokens.FailsBy fault := by
  simp [FailsFrom, FailsBy]

end Tokens

theorem Tokens.Has.of_rank_eq_five {tokens : Tokens} {fault : Fault} (hhas : tokens.Has fault)
    (hrank : fault.rank = 5) :
    ∃ items position entry, '[' ∈ tokens.ending.toList ∧ Spells tokens.ending items ∧
      tokens.entries[position]? = some entry ∧ ¬ Refers entry (Ending.captures items) ∧
      (∀ earlier < position, ∀ other, tokens.entries[earlier]? = some other →
        Refers other (Ending.captures items)) ∧
      fault = .tooManyReferences position (entry.toList.count '?') tokens.ending
        (Ending.captures items) := by
  cases hhas with
  | tooManyReferences hmem hspells hentry hexcess hfirst =>
    exact ⟨_, _, _, hmem, hspells, hentry, hexcess, hfirst, rfl⟩
  | _ => simp [Fault.rank] at hrank

end Rule

open Rule
open Tokens (finds_of_iff finds_ok)

namespace RuleSet

variable {tokens : Tokens} {fault : Fault}

theorem finds_preconditionOf : tokens.Finds 2 2 (preconditionOf tokens.precondition) := by
  apply finds_of_iff
  intro fault
  constructor
  · intro h
    cases hsource : tokens.precondition with
    | none =>
      rw [hsource] at h
      contradiction
    | some source =>
      rw [hsource, preconditionOf, map_eq_error_iff, Precondition.ofSource_eq_error_iff] at h
      obtain ⟨rfl, hnone⟩ := h
      exact ⟨.invalidPrecondition hsource hnone, Nat.le_refl _, Nat.le_refl _⟩
  · rintro ⟨hhas, hleast, hmost⟩
    cases hhas with
    | invalidPrecondition hsource hnone =>
      rw [hsource, preconditionOf, map_eq_error_iff, Precondition.ofSource_eq_error_iff]
      exact ⟨rfl, hnone⟩
    | _ => simp [Fault.rank] at hleast hmost

theorem finds_ofEnding : tokens.Finds 3 4 (Strip.ofEnding tokens.ending) := by
  apply finds_of_iff
  intro fault
  rw [Strip.ofEnding_eq_error_iff]
  constructor
  · rintro (⟨rest, hbreaks, ⟨hrest, rfl⟩ | ⟨hrest, rfl⟩⟩ | ⟨hclasses, rfl, items, hspells, hnone⟩)
    · exact ⟨.unterminatedClass hbreaks hrest, Nat.le_refl 3, Nat.le_succ 3⟩
    · exact ⟨.emptyClass hbreaks hrest, Nat.le_refl 3, Nat.le_succ 3⟩
    · exact ⟨.invalidPattern hclasses hspells hnone, Nat.le_succ 3, Nat.le_refl 4⟩
  · rintro ⟨hhas, hleast, hmost⟩
    cases hhas with
    | unterminatedClass hbreaks hrest => exact .inl ⟨_, hbreaks, .inl ⟨hrest, rfl⟩⟩
    | emptyClass hbreaks hrest => exact .inl ⟨_, hbreaks, .inr ⟨hrest, rfl⟩⟩
    | invalidPattern hclasses hspells hnone => exact .inr ⟨hclasses, rfl, _, hspells, hnone⟩
    | _ => simp [Fault.rank] at hleast hmost

/-- The entry that is reported is the first that refers to too many characters. -/
theorem firstExcess?_ofEntry_eq_some_iff {captures position references : Nat} :
    firstExcess? captures (tokens.entries.map Replacement.ofEntry) = some (position, references) ↔
      ∃ entry, tokens.entries[position]? = some entry ∧ entry.toList.count '?' = references ∧
        ¬ Refers entry captures ∧ ∀ earlier < position, ∀ other,
          tokens.entries[earlier]? = some other → Refers other captures := by
  simp only [firstExcess?_eq_some_iff, List.getElem?_map, Option.map_eq_some_iff, refers_iff,
    Nat.not_le]
  constructor
  · rintro ⟨_, ⟨entry, hentry, rfl⟩, rfl, hexcess, hearlier⟩
    refine ⟨entry, hentry, (Replacement.references_ofEntry entry).symm, hexcess, ?_⟩
    intro earlier hlt other hother
    exact hearlier earlier hlt _ ⟨other, hother, rfl⟩
  · rintro ⟨entry, hentry, rfl, hexcess, hearlier⟩
    have hreferences := Replacement.references_ofEntry entry
    refine ⟨_, ⟨entry, hentry, rfl⟩, hreferences, hreferences ▸ hexcess, ?_⟩
    rintro earlier hlt _ ⟨other, hother, rfl⟩
    exact hearlier earlier hlt other hother

theorem checkReferences_pattern_eq_error_iff {source : String} {p : Pattern} {captures : Nat}
    {replacements : List Replacement} :
    checkReferences (.pattern source p captures) replacements = .error fault ↔
      ∃ position references, firstExcess? captures replacements = some (position, references) ∧
        fault = .tooManyReferences position references source captures := by
  rw [checkReferences]
  cases firstExcess? captures replacements with
  | none => simp
  | some excess =>
    obtain ⟨position, references⟩ := excess
    constructor
    · intro h
      exact ⟨position, references, rfl, (Except.error.inj h).symm⟩
    · rintro ⟨_, _, ⟨rfl, rfl⟩, rfl⟩
      rfl

theorem finds_checkReferences {strip : Strip} (hstrip : Strip.ofEnding tokens.ending = .ok strip) :
    tokens.Finds 5 5 (checkReferences strip (tokens.entries.map Replacement.ofEntry)) := by
  apply finds_of_iff
  intro fault
  have hclasses := Strip.isPattern_of_ofEnding hstrip
  cases strip with
  | concatenation suffix =>
    constructor
    · intro h
      contradiction
    · rintro ⟨hhas, hrank⟩
      obtain ⟨_, _, _, hmem, -⟩ := hhas.of_rank_eq_five (Nat.le_antisymm hrank.2 hrank.1)
      have hpattern := hclasses.2 hmem
      contradiction
  | pattern source p captures =>
    obtain ⟨rfl, items, hitems, -, rfl⟩ := Strip.ofEnding_eq_pattern hstrip
    have hspells := Ending.items_eq_ok_iff.1 hitems
    simp only [checkReferences_pattern_eq_error_iff, firstExcess?_ofEntry_eq_some_iff]
    constructor
    · rintro ⟨position, _, ⟨entry, hentry, rfl, hexcess, hfirst⟩, rfl⟩
      exact ⟨.tooManyReferences (hclasses.1 rfl) hspells hentry hexcess hfirst, Nat.le_refl _,
        Nat.le_refl _⟩
    · rintro ⟨hhas, hrank⟩
      obtain ⟨items', position, entry, -, hspells', hentry, hexcess, hfirst, rfl⟩ :=
        hhas.of_rank_eq_five (Nat.le_antisymm hrank.2 hrank.1)
      obtain rfl := hspells.unique hspells'
      exact ⟨position, _, ⟨entry, hentry, rfl, hexcess, hfirst⟩, rfl⟩

/-- A rule without entries is refused. -/
theorem finds_checkEntries :
    tokens.Finds 1 1 (if tokens.entries.isEmpty then .error (.noReplacements tokens.ending)
      else .ok ()) := by
  apply finds_of_iff
  intro fault
  by_cases hentries : tokens.entries = []
  · rw [if_pos (List.isEmpty_iff.2 hentries)]
    constructor
    · intro h
      rw [← Except.error.inj h]
      exact ⟨.noReplacements hentries, Nat.le_refl 1, Nat.le_refl 1⟩
    · rintro ⟨hhas, hleast, hmost⟩
      cases hhas with
      | noReplacements => rfl
      | _ => simp [Fault.rank] at hleast hmost
  · rw [if_neg (mt List.isEmpty_iff.1 hentries)]
    constructor
    · intro h
      contradiction
    · rintro ⟨hhas, hleast, hmost⟩
      cases hhas with
      | noReplacements h => exact absurd h hentries
      | _ => simp [Fault.rank] at hleast hmost

theorem finds_ofTokens : tokens.Finds 1 5 (ofTokens tokens) := by
  have hchecks : ofTokens tokens = do
      (if tokens.entries.isEmpty then .error (.noReplacements tokens.ending) else .ok ())
      let precondition ← preconditionOf tokens.precondition
      let strip ← Strip.ofEnding tokens.ending
      let replacements := tokens.entries.map Replacement.ofEntry
      checkReferences strip replacements
      return { precondition, strip, replacements } := by
    unfold ofTokens
    split
    · rfl
    · rfl
  rw [hchecks]
  refine finds_checkEntries.bind (fun _ _ => ?_) (by omega) (by omega)
  refine finds_preconditionOf.bind (fun _ _ => ?_) (by omega) (by omega)
  refine finds_ofEnding.bind (fun strip hstrip => ?_) (by omega) (by omega)
  exact (finds_checkReferences hstrip).bind (fun _ _ => finds_ok _) (by omega) (by omega)

/-- A text whose declaration is empty is refused for this before all else. -/
theorem finds_tokens {text : String} (h : tokens.WrittenIn text) :
    tokens.Finds 0 0 (Tokens.ofText text) := by
  obtain ⟨hundeclared, hdeclared⟩ := h.ofText_eq
  apply finds_of_iff
  intro fault
  by_cases hnothing : tokens.IsUndeclared
  · rw [hundeclared hnothing]
    constructor
    · intro hfault
      rw [← Except.error.inj hfault]
      exact ⟨.noDeclaration hnothing, Nat.le_refl 0, Nat.le_refl 0⟩
    · rintro ⟨hhas, -, hmost⟩
      cases hhas with
      | noDeclaration => rfl
      | _ => simp [Fault.rank] at hmost
  · rw [hdeclared hnothing]
    constructor
    · intro hfault
      contradiction
    · rintro ⟨hhas, -, hmost⟩
      cases hhas with
      | noDeclaration h => exact absurd h hnothing
      | _ => simp [Fault.rank] at hmost

theorem rank_le_five (fault : Fault) : fault.rank ≤ 5 := by
  cases fault <;> simp [Fault.rank]

/-- A rule text is refused for the first of the faults of its tokens. -/
theorem ofText_eq_error_iff_failsBy {text : String} (h : tokens.WrittenIn text) :
    ofText text = .error fault ↔ tokens.FailsBy fault := by
  have hfinds : tokens.Finds 0 5 (ofText text) := by
    refine (finds_tokens h).bind ?_ (by omega) (by omega)
    intro tokens' htokens'
    rw [h.eq_of_ofText htokens']
    exact finds_ofTokens
  rw [hfinds, Tokens.failsFrom_zero_iff]
  exact and_iff_left (rank_le_five fault)

theorem DeclaredBy.precondition_eq_none {rules : RuleSet} (h : rules.DeclaredBy tokens)
    (hnone : rules.precondition = none) : tokens.precondition = none := by
  have hprecondition := h.precondition
  rw [hnone] at hprecondition
  cases hsource : tokens.precondition with
  | none => rfl
  | some source =>
    rw [hsource, preconditionOf, map_eq_ok_iff] at hprecondition
    obtain ⟨condition, -, hcondition⟩ := hprecondition
    contradiction

/-- A rule set that tokens declare is the one that they write. -/
theorem DeclaredBy.write {rules : RuleSet} (h : rules.DeclaredBy tokens) : tokens.Write rules where
  replacements := by
    rw [h.replacements, List.forall₂_map_right_iff, List.forall₂_same]
    intro entry _
    exact writes_ofEntry entry
  source := by
    cases hcondition : rules.precondition with
    | none => exact (h.precondition_eq_none hcondition).symm
    | some condition => exact (h.pattern_of_mem hcondition).1.symm
  compiled _ hcondition := (h.pattern_of_mem hcondition).2
  strip := Strip.isFor_of_ofEnding h.strip

theorem declaredBy_of_ofText {text : String} {rules : RuleSet} (h : tokens.WrittenIn text)
    (hrules : ofText text = .ok rules) : rules.DeclaredBy tokens := by
  obtain ⟨tokens', htokens', hdeclared⟩ := ofText_eq_ok_iff.1 hrules
  rw [h.eq_of_ofText htokens'] at hdeclared
  exact hdeclared

end RuleSet

end Inflection
