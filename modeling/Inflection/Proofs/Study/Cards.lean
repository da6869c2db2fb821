import Inflection.Proofs.Derivation
import Inflection.Proofs.Mapping
import Inflection.Proofs.Rule.Forms
import Inflection.Study.Plan

/-!
What the cards of a word show. The form of a slot is found under the name of the
slot, and it is the one that the line of the rule text at the position of the
slot makes, so that each card shows what the rule text says for it.
-/

namespace Inflection

open Rule

theorem PartOfSpeech.nodup_names (part : PartOfSpeech) : (part.slotTable.map (·.1.name)).Nodup := by
  cases part with
  | noun | masculineNoun => decide

/-- The position of a slot is told by its name. -/
theorem PartOfSpeech.position_unique {part : PartOfSpeech} {slot slot' : Slot}
    {position position' : Nat} (h : (slot, position) ∈ part.slotTable)
    (h' : (slot', position') ∈ part.slotTable) (hname : slot.name = slot'.name) :
    position = position' :=
  congrArg Prod.snd (List.inj_on_of_nodup_map part.nodup_names h h' hname)

/-- Under the name of a slot the form at its position is found. -/
theorem FormSet.getElem?_slots {set : FormSet} {part : PartOfSpeech} {name form : String} :
    (set.slots part)[name]? = some form ↔ ∃ slot position, (slot, position) ∈ part.slotTable ∧
      slot.name = name ∧ set.get? position = some form := by
  have hfound := @Mapping.getElem?_ofEntries_filterMap _ _ _ _ (fun entry => set.get? entry.2)
    part.nodup_names name form
  simp only [Prod.exists] at hfound
  exact hfound

namespace StudyPlan

/-- Whether a plan lists slot names for a word type, which it knows by the decimal text of its
number. -/
def Lists (plan : StudyPlan) (speechPart : String) (typeId : UInt64) (names : List String) : Prop :=
  ∃ types : WordTypes, plan.slots[speechPart]? = some types ∧
    types[toString typeId.toNat]? = some names

theorem slotsFor?_eq_some_iff {plan : StudyPlan} {speechPart : String} {typeId : UInt64}
    {names : List String} :
    plan.slotsFor? speechPart typeId = some names ↔ plan.Lists speechPart typeId names :=
  Option.bind_eq_some_iff

/-- The cards for some slot names, one after another. A name gets the form that the line at its
position makes. It gets no card if no slot of the part of speech has it, or if there is no such line
or this marks a form that does not exist. -/
inductive Cards (part : PartOfSpeech) (tokens : Tokens) (root : String) :
    List String → List (String × String) → Prop where
  | nil : Cards part tokens root [] []
  | shown {slot : Slot} {position : Nat} {line form : String} {names : List String}
      {cards : List (String × String)} (hslot : (slot, position) ∈ part.slotTable)
      (hline : tokens.entries[position]? = some line) (hform : tokens.Makes root line form)
      (hrest : Cards part tokens root names cards) :
      Cards part tokens root (slot.name :: names) ((slot.name, form) :: cards)
  | absent {slot : Slot} {position : Nat} {names : List String} {cards : List (String × String)}
      (hslot : (slot, position) ∈ part.slotTable)
      (hline : tokens.entries[position]? = none ∨ tokens.entries[position]? = some "\\-")
      (hrest : Cards part tokens root names cards) :
      Cards part tokens root (slot.name :: names) cards
  | unlisted {name : String} {names : List String} {cards : List (String × String)}
      (hname : ∀ slot position, (slot, position) ∈ part.slotTable → slot.name ≠ name)
      (hrest : Cards part tokens root names cards) : Cards part tokens root (name :: names) cards

section Cards

variable {rules : RuleSet} {tokens : Tokens} {root : String} {set : FormSet} {part : PartOfSpeech}

theorem slots_eq_none_of_unlisted {name : String}
    (hname : ∀ slot position, (slot, position) ∈ part.slotTable → slot.name ≠ name) :
    (set.slots part)[name]? = none := by
  rw [Option.eq_none_iff_forall_ne_some]
  intro form hform
  obtain ⟨slot, position, hslot, heq, -⟩ := FormSet.getElem?_slots.1 hform
  exact hname slot position hslot heq

variable (hdeclared : rules.DeclaredBy tokens) (h : rules.generate root = .ok set)
include hdeclared h

/-- The form under the name of a slot is the one that the line at its position makes. -/
theorem slots_eq_some_iff {slot : Slot} {position : Nat} (hslot : (slot, position) ∈ part.slotTable)
    {form : String} : (set.slots part)[slot.name]? = some form ↔
      ∃ line, tokens.entries[position]? = some line ∧ tokens.Makes root line form := by
  rw [FormSet.getElem?_slots, ← RuleSet.get?_eq_some_iff_makes hdeclared h]
  constructor
  · intro ⟨slot', position', hslot', hname, hform⟩
    rw [PartOfSpeech.position_unique hslot hslot' hname.symm]
    exact hform
  · intro hform
    exact ⟨slot, position, hslot, rfl, hform⟩

/-- Whether there is a form under the name of a slot is told by the line at its position. -/
theorem slots_eq_none_iff {slot : Slot} {position : Nat}
    (hslot : (slot, position) ∈ part.slotTable) : (set.slots part)[slot.name]? = none ↔
      tokens.entries[position]? = none ∨ tokens.entries[position]? = some "\\-" := by
  simp only [Option.eq_none_iff_forall_ne_some, Ne, slots_eq_some_iff hdeclared h hslot, not_exists,
    not_and]
  cases hline : tokens.entries[position]? with
  | none => simp
  | some line =>
    have hmakes : (∃ form, tokens.Makes root line form) ↔ line ≠ "\\-" :=
      RuleSet.exists_makes_iff hdeclared h
    rw [← not_iff_not] at hmakes
    simpa using hmakes

/-- The names under which there are forms, with the forms, are the cards. -/
theorem cards_iff {names : List String} {cards : List (String × String)} :
    Cards part tokens root names cards ↔
      names.filterMap (fun name => (set.slots part)[name]?.map (name, ·)) = cards := by
  constructor
  · intro hcards
    induction hcards with
    | nil => rfl
    | shown hslot hline hform hrest ih =>
      have hfound := (slots_eq_some_iff hdeclared h hslot).2 ⟨_, hline, hform⟩
      rw [List.filterMap_cons, hfound, ← ih]
      rfl
    | absent hslot hline hrest ih =>
      have hnone := (slots_eq_none_iff hdeclared h hslot).2 hline
      rw [List.filterMap_cons, hnone, ← ih]
      rfl
    | unlisted hname hrest ih =>
      rw [List.filterMap_cons, slots_eq_none_of_unlisted hname, ← ih]
      rfl
  · intro heq
    induction names generalizing cards with
    | nil =>
      rw [← heq]
      exact .nil
    | cons name names ih =>
      rw [List.filterMap_cons] at heq
      by_cases hlisted : ∃ slot position, (slot, position) ∈ part.slotTable ∧ slot.name = name
      · obtain ⟨slot, position, hslot, rfl⟩ := hlisted
        cases hfound : (set.slots part)[slot.name]? with
        | none =>
          rw [hfound] at heq
          exact .absent hslot ((slots_eq_none_iff hdeclared h hslot).1 hfound) (ih heq)
        | some form =>
          rw [hfound] at heq
          obtain ⟨line, hline, hform⟩ := (slots_eq_some_iff hdeclared h hslot).1 hfound
          rw [← heq]
          exact .shown hslot hline hform (ih rfl)
      · have hname : ∀ slot position, (slot, position) ∈ part.slotTable → slot.name ≠ name :=
          fun slot position hslot heq => hlisted ⟨slot, position, hslot, heq⟩
        rw [slots_eq_none_of_unlisted hname] at heq
        exact .unlisted hname (ih heq)

end Cards

/-- The cards of a word that is derived are made from its rule text and its root for the slot names
that the plan lists. Where the plan lists none, nothing is selected from any mapping. -/
theorem select_derived {dictionary : Dictionary} {id : UInt64} {derivation : Derivation}
    (h : dictionary.derive id = .ok derivation) (plan : StudyPlan) :
    ∃ tokens : Tokens, dictionary.word? id = .ok (some derivation.entry) ∧
      derivation.partOfSpeech.Tagged derivation.entry.speechPart ∧
      tokens.WrittenIn derivation.entry.rules ∧
      (∀ names, plan.Lists derivation.entry.speechPart derivation.entry.typeId names →
        ∃ cards, plan.select derivation.entry.speechPart derivation.entry.typeId derivation.slots =
            .ok cards ∧
          ∀ cards', Cards derivation.partOfSpeech tokens derivation.entry.root names cards' ↔
            cards' = cards) ∧
      ∀ speechPart typeId, (∀ names, ¬ plan.Lists speechPart typeId names) → ∀ mapping,
        plan.select speechPart typeId mapping =
          .error (.config ("no slots to study configured for word type " ++
            toString typeId.toNat ++ " in '" ++ speechPart ++ "'")) := by
  obtain ⟨entry, hword, hderive⟩ := dictionary.exists_entry h
  obtain ⟨rfl, hpart, hslots, tokens, rules, htokens, hdeclared, hgenerate⟩ :=
    WordEntry.exists_declaredBy hderive
  refine ⟨tokens, hword, hpart, htokens, ?_, ?_⟩
  · intro names hnames
    refine ⟨_, ?_, fun cards => (cards_iff hdeclared hgenerate).trans eq_comm⟩
    rw [select, slotsFor, slotsFor?_eq_some_iff.2 hnames, hslots]
    rfl
  · intro speechPart typeId hnone mapping
    have hunlisted : plan.slotsFor? speechPart typeId = none := by
      rw [Option.eq_none_iff_forall_ne_some]
      intro names hnames
      exact hnone names (slotsFor?_eq_some_iff.1 hnames)
    rw [select, slotsFor, hunlisted]
    rfl

/-- A masculine noun with a placeholder among its lines and no definite plural, a name that is
listed twice and one that is no slot of nouns, and a word type without a list. -/
theorem select_derived_noun : ∃ (dictionary : Dictionary) (plan : StudyPlan)
    (derivation : Derivation) (tokens : Tokens), dictionary.derive 7 = .ok derivation ∧
      tokens.entries = ["0", "а", "ът", "ове", "\\-", "а"] ∧
      plan.select "noun_male" 1 derivation.slots = .ok [("singular_definite", "столът"),
        ("contable", "стола"), ("singular_definite", "столът")] ∧
      Cards .masculineNoun tokens "стол"
        ["singular_definite", "plural_definite", "masculineForm", "contable", "singular_definite"]
        [("singular_definite", "столът"), ("contable", "стола"), ("singular_definite", "столът")] ∧
      plan.select "noun_male" 28 derivation.slots =
        .error (.config "no slots to study configured for word type 28 in 'noun_male'") := by
  obtain ⟨dictionary, plan, hlisted, hunlisted, hparts⟩ :
      ∃ (dictionary : Dictionary) (plan : StudyPlan),
        plan.slotsFor? "noun_male" 1 = some ["singular_definite", "plural_definite",
          "masculineForm", "contable", "singular_definite"] ∧
        plan.slotsFor? "noun_male" 28 = none ∧
        (dictionary.derive 7).toOption.any (fun derivation =>
          derivation.entry =
            ⟨7, "стол", 1, "noun_male", "0, [^аъ]\n0\nа\n-\nът\n\nове\n\\-\nа\n"⟩ ∧
          derivation.partOfSpeech = .masculineNoun ∧
          (plan.select "noun_male" 1 derivation.slots).toOption = some
            [("singular_definite", "столът"), ("contable", "стола"),
              ("singular_definite", "столът")]) = true :=
    ⟨(({} : Lexicon).insertWord
      ⟨7, "стол", 1, "noun_male", "0, [^аъ]\n0\nа\n-\nът\n\nове\n\\-\nа\n"⟩).dictionary,
      ({} : StudyPlan).withSlots "noun_male" 1 ["singular_definite", "plural_definite",
        "masculineForm", "contable", "singular_definite"],
      by decide +kernel, by decide +kernel, by decide +kernel⟩
  obtain ⟨derivation, hderive, hparts⟩ := exists_eq_ok_of_any hparts
  obtain ⟨hentry, hpart, hselected⟩ := of_decide_eq_true hparts
  obtain ⟨tokens, -, -, htokens, hcards, hnone⟩ := select_derived hderive plan
  rw [hentry] at htokens hcards
  obtain ⟨cards, hselect, hcards⟩ := hcards _ (slotsFor?_eq_some_iff.1 hlisted)
  rw [hselect] at hselected
  obtain rfl := Option.some.inj hselected
  have htext : Tokens.ofText "0, [^аъ]\n0\nа\n-\nът\n\nове\n\\-\nа\n" =
      .ok ⟨"0", some "[^аъ]", ["0", "а", "ът", "ове", "\\-", "а"]⟩ := by
    decide +kernel
  have hentries := htokens.eq_of_ofText htext
  refine ⟨dictionary, plan, derivation, tokens, hderive, ?_, hselect, ?_, ?_⟩
  · rw [← hentries]
  · rw [← hpart]
    exact (hcards _).2 rfl
  · refine hnone "noun_male" 28 ?_ derivation.slots
    intro names hnames
    rw [slotsFor?_eq_some_iff.2 hnames] at hunlisted
    contradiction

end StudyPlan

end Inflection
