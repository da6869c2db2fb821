import Inflection.Proofs.Rule.RuleSet
import Inflection.Proofs.Study.Calls

/-!
What a plan answers that is made by calls. For a word type the last call for it counts,
whatever other calls there are, and the plan names the parts of speech and the word
types for which there were calls.
-/

namespace Inflection.StudyPlan

/-- Whether a call sets the slots of a word type. -/
def Call.IsFor (call : Call) (part : String) (typeId : UInt64) : Prop :=
  call.1 = part ∧ call.2.1 = typeId

instance (call : Call) (part : String) (typeId : UInt64) : Decidable (call.IsFor part typeId) :=
  inferInstanceAs (Decidable (_ ∧ _))

section Answers

variable {plan : StudyPlan} {part : String} {typeId : UInt64} {slots : List String}

theorem slotsFor?_eq (plan : StudyPlan) (part : String) (typeId : UInt64) :
    plan.slotsFor? part typeId = (plan.slots.getD part ∅)[typeKey typeId]? := by
  rw [slotsFor?, Std.ExtTreeMap.getD_eq_getD_getElem?]
  cases plan.slots[part]? with
  | none => exact Std.ExtTreeMap.getElem?_empty.symm
  | some types => rfl

theorem slotsFor_eq_ok_iff :
    plan.slotsFor part typeId = .ok slots ↔ plan.slotsFor? part typeId = some slots := by
  rw [slotsFor]
  cases plan.slotsFor? part typeId with
  | none => simp
  | some listed => simp

theorem slotsFor_eq_error_iff {error : Error} : plan.slotsFor part typeId = .error error ↔
    plan.slotsFor? part typeId = none ∧ error = .config (
      "no slots to study configured for word type " ++ typeKey typeId ++ " in '" ++ part ++ "'") := by
  rw [slotsFor]
  cases plan.slotsFor? part typeId with
  | none => simp [eq_comm]
  | some listed => simp

end Answers

section Calls

variable {plan : StudyPlan} {calls : List Call}

theorem slotsFor?_withSlots (plan : StudyPlan) (call : Call) (part : String) (typeId : UInt64) :
    (plan.withSlots call.1 call.2.1 call.2.2).slotsFor? part typeId =
      if call.IsFor part typeId then some call.2.2 else plan.slotsFor? part typeId := by
  rw [slotsFor?_eq, getD_slots_withSlots, slotsFor?_eq]
  by_cases hpart : call.1 = part
  · have htype : typeKey call.2.1 = typeKey typeId ↔ call.2.1 = typeId :=
      ⟨typeKey_injective, congrArg typeKey⟩
    simp only [hpart, Mapping.getElem?_insert, htype, Call.IsFor, true_and, if_pos]
  · simp only [hpart, Call.IsFor, false_and, if_neg, not_false_eq_true]

theorem mem_tags_withSlots (plan : StudyPlan) (call : Call) (part : String) :
    part ∈ (plan.withSlots call.1 call.2.1 call.2.2).tags ↔ call.1 = part ∨ part ∈ plan.tags := by
  rw [tags, tags, Std.ExtTreeMap.mem_keys, Std.ExtTreeMap.mem_keys, withSlots,
    Std.ExtTreeMap.mem_insert, Std.compare_eq_iff_eq]

theorem mem_wordTypes_withSlots (plan : StudyPlan) (call : Call) (part text : String) :
    text ∈ (plan.withSlots call.1 call.2.1 call.2.2).wordTypes part ↔
      (call.1 = part ∧ typeKey call.2.1 = text) ∨ text ∈ plan.wordTypes part := by
  rw [wordTypes, wordTypes, Std.ExtTreeMap.mem_keys, Std.ExtTreeMap.mem_keys, getD_slots_withSlots]
  by_cases hpart : call.1 = part
  · rw [if_pos hpart, Std.ExtTreeMap.mem_insert, Std.compare_eq_iff_eq, hpart]
    simp only [true_and]
  · simp [hpart]

/-- Whether a plan holds what some calls set and nothing else. -/
structure Keeps (plan : StudyPlan) (calls : List Call) : Prop where
  slotsFor? : ∀ part typeId slots, plan.slotsFor? part typeId = some slots ↔
    IsLast (·.IsFor part typeId) calls (part, typeId, slots)
  mem_tags : ∀ part, part ∈ plan.tags ↔ ∃ call ∈ calls, call.1 = part
  mem_wordTypes : ∀ part text, text ∈ plan.wordTypes part ↔
    ∃ call ∈ calls, call.1 = part ∧ typeKey call.2.1 = text

theorem keeps_empty : Keeps {} [] where
  slotsFor? part typeId slots := by
    rw [slotsFor?_eq, Std.ExtTreeMap.getD_empty, Std.ExtTreeMap.getElem?_empty]
    exact iff_of_false nofun not_isLast_nil
  mem_tags part := by simp [tags, Std.ExtTreeMap.mem_keys]
  mem_wordTypes part text := by simp [wordTypes]

/-- There are no slots just for the word types for which there is no call. -/
theorem Keeps.slotsFor?_eq_none_iff (h : plan.Keeps calls) {part : String} {typeId : UInt64} :
    plan.slotsFor? part typeId = none ↔ ∀ call ∈ calls, ¬ call.IsFor part typeId := by
  have hcalls := @exists_isLast_iff Call (·.IsFor part typeId) calls
  constructor
  · intro hnone call hcall hfor
    obtain ⟨⟨_, _, slots⟩, hlast⟩ := hcalls.2 ⟨call, hcall, hfor⟩
    obtain ⟨_, _, _, ⟨rfl, rfl⟩, _⟩ := id hlast
    rw [(h.slotsFor? _ _ slots).2 hlast] at hnone
    contradiction
  · intro hnone
    rw [Option.eq_none_iff_forall_ne_some]
    intro slots hslots
    obtain ⟨call, hcall, hfor⟩ := hcalls.1 ⟨_, (h.slotsFor? part typeId slots).1 hslots⟩
    exact hnone call hcall hfor

/-- A call is added to what a plan holds. -/
theorem Keeps.withSlots (h : plan.Keeps calls) (call : Call) :
    (plan.withSlots call.1 call.2.1 call.2.2).Keeps (calls ++ [call]) where
  slotsFor? part typeId slots := by
    rw [slotsFor?_withSlots, isLast_concat, ← h.slotsFor? part typeId slots]
    by_cases hcall : call.IsFor part typeId
    · obtain ⟨rfl, rfl⟩ := id hcall
      simp [hcall, Prod.ext_iff, eq_comm]
    · simp [hcall]
  mem_tags part := by
    rw [mem_tags_withSlots, h.mem_tags, or_comm]
    simp [or_and_right, exists_or]
  mem_wordTypes part text := by
    rw [mem_wordTypes_withSlots, h.mem_wordTypes, or_comm]
    simp [or_and_right, exists_or]

theorem ofCalls_concat (calls : List Call) (call : Call) :
    ofCalls (calls ++ [call]) = (ofCalls calls).withSlots call.1 call.2.1 call.2.2 := by
  rw [ofCalls, List.foldl_append]
  rfl

theorem keeps_ofCalls (calls : List Call) : (ofCalls calls).Keeps calls := by
  induction calls using List.reverseRecOn with
  | nil => exact keeps_empty
  | append_singleton calls call ih =>
    rw [ofCalls_concat]
    exact ih.withSlots call

end Calls

/-- What a plan answers after calls. The slots of a word type are those of the last call for it, or
there was none and the error names it; a call for another word type changes nothing, since the
texts of their numbers differ. The parts of speech and the word types are listed once each in the
order of the code points, and a selection keeps the order and the repetitions of the slots. -/
theorem answers_ofCalls (calls : List Call) :
    (∀ part typeId,
      (∀ slots, (ofCalls calls).slotsFor part typeId = .ok slots ↔
        IsLast (·.IsFor part typeId) calls (part, typeId, slots)) ∧
      ∀ error, (ofCalls calls).slotsFor part typeId = .error error ↔
        (∀ call ∈ calls, ¬ call.IsFor part typeId) ∧
          error = .config ("no slots to study configured for word type " ++
            toString typeId.toNat ++ " in '" ++ part ++ "'")) ∧
    ((∀ (call : Call) part typeId, ¬ call.IsFor part typeId →
        (ofCalls (calls ++ [call])).slotsFor part typeId = (ofCalls calls).slotsFor part typeId) ∧
      ∀ typeId typeId' : UInt64, typeKey typeId = typeKey typeId' → typeId = typeId') ∧
    ((∀ part, part ∈ (ofCalls calls).tags ↔ ∃ call ∈ calls, call.1 = part) ∧
      (ofCalls calls).tags.Pairwise (· < ·)) ∧
    (∀ part,
      (∀ text, text ∈ (ofCalls calls).wordTypes part ↔
        ∃ call ∈ calls, call.1 = part ∧ toString call.2.1.toNat = text) ∧
      ((ofCalls calls).wordTypes part).Pairwise (· < ·)) ∧
    ∀ part typeId (mapping : Mapping),
      (∀ cards, (ofCalls calls).select part typeId mapping = .ok cards ↔
        ∃ slots, (ofCalls calls).slotsFor part typeId = .ok slots ∧
          cards.map (·.1) = slots.filter (· ∈ mapping) ∧
            ∀ card ∈ cards, mapping[card.1]? = some card.2) ∧
      ∀ error, (ofCalls calls).select part typeId mapping = .error error ↔
        (ofCalls calls).slotsFor part typeId = .error error := by
  have hkeeps := keeps_ofCalls calls
  refine ⟨fun part typeId => ⟨?_, ?_⟩, ⟨?_, fun _ _ => typeKey_injective⟩,
    ⟨hkeeps.mem_tags, Mapping.pairwise_keys _⟩,
    fun part => ⟨hkeeps.mem_wordTypes part, Mapping.pairwise_keys _⟩,
    fun part typeId mapping => ⟨?_, ?_⟩⟩
  · intro slots
    rw [slotsFor_eq_ok_iff, hkeeps.slotsFor?]
  · intro error
    rw [slotsFor_eq_error_iff, hkeeps.slotsFor?_eq_none_iff]
    rfl
  · intro call part typeId hcall
    rw [slotsFor, slotsFor, ofCalls_concat, slotsFor?_withSlots, if_neg hcall]
  · intro cards
    rw [select, map_eq_ok_iff]
    simp only [Mapping.filterMap_getElem?_eq_iff]
  · intro error
    rw [select, map_eq_error_iff]

/-- The texts of the numbers are in order, not the numbers. -/
example : (ofCalls [("noun_male", 9, ["contable"]), ("noun_male", 10, [])]).wordTypes "noun_male" =
    ["10", "9"] := by
  decide +kernel

end Inflection.StudyPlan
