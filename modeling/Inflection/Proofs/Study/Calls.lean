import Inflection.Proofs.Study.Layout

/-!
Plans that are made by one call after another. Calls for different word types can be
made in any order, and a plan is made by the calls for the word types that it is
written with.
-/

namespace Inflection.StudyPlan

theorem typeKey_injective {typeId typeId' : UInt64} (h : typeKey typeId = typeKey typeId') :
    typeId = typeId' := by
  rw [typeKey, typeKey, Nat.toString_eq_ofList_toDigits, Nat.toString_eq_ofList_toDigits,
    String.ofList_inj] at h
  have hnumber := congrArg Json.Number.ofDigits h
  rw [Json.ofDigits_toDigits, Json.ofDigits_toDigits] at hnumber
  exact UInt64.toNat_inj.1 hnumber

section Commuting

variable {plan : StudyPlan} {part part' : String} {typeId typeId' : UInt64}
  {slots slots' : List String}

theorem getD_slots_withSlots (plan : StudyPlan) (part : String) (typeId : UInt64)
    (slots : List String) (other : String) :
    (plan.withSlots part typeId slots).slots.getD other ∅ =
      if part = other then (plan.slots.getD part ∅).insert (typeKey typeId) slots
      else plan.slots.getD other ∅ := by
  rw [withSlots, Std.ExtTreeMap.getD_insert]
  simp only [Std.compare_eq_iff_eq]

theorem withSlots_withSlots :
    (plan.withSlots part typeId slots).withSlots part' typeId' slots' =
      ⟨(plan.slots.insert part ((plan.slots.getD part ∅).insert (typeKey typeId) slots)).insert
        part' ((if part = part' then (plan.slots.getD part ∅).insert (typeKey typeId) slots
          else plan.slots.getD part' ∅).insert (typeKey typeId') slots')⟩ := by
  rw [← getD_slots_withSlots]
  rfl

/-- Calls for different word types can be made in either order. -/
theorem withSlots_comm (h : part ≠ part' ∨ typeId ≠ typeId') :
    (plan.withSlots part typeId slots).withSlots part' typeId' slots' =
      (plan.withSlots part' typeId' slots').withSlots part typeId slots := by
  rw [withSlots_withSlots, withSlots_withSlots]
  by_cases hpart : part = part'
  · subst hpart
    have htype : typeKey typeId ≠ typeKey typeId' := fun heq =>
      h.resolve_left (fun hne => hne rfl) (typeKey_injective heq)
    rw [if_pos rfl, if_pos rfl, Mapping.insert_insert, Mapping.insert_insert,
      Mapping.insert_comm htype]
  · rw [if_neg hpart, if_neg (Ne.symm hpart), Mapping.insert_comm hpart]

end Commuting

/-- A call that sets the slots of a word type. -/
abbrev Call := String × UInt64 × List String

/-- The plan that is made by calls, one after another. -/
def ofCalls (calls : List Call) : StudyPlan :=
  calls.foldl (fun plan call => plan.withSlots call.1 call.2.1 call.2.2) {}

/-- If no two calls are for one word type, their order does not matter. -/
theorem ofCalls_perm {calls others : List Call} (h : calls.Perm others)
    (hdistinct : (calls.map fun call => (call.1, call.2.1)).Nodup) :
    ofCalls calls = ofCalls others := by
  apply h.foldl_eq'
  intro call hcall call' hcall' plan
  by_cases hsame : (call.1, call.2.1) = (call'.1, call'.2.1)
  · rw [List.inj_on_of_nodup_map hdistinct hcall hcall' hsame]
  · rw [Prod.mk.injEq, not_and_or] at hsame
    exact withSlots_comm hsame

/-- The word types of each part of speech by number, with their slots, in an order in which they
are written. -/
abbrev Outline := List (String × List (UInt64 × List String))

namespace Outline

def layout (outline : Outline) : Layout :=
  outline.map fun part => (part.1, part.2.map fun entry => (typeKey entry.1, entry.2))

/-- A call for each word type. -/
def calls (outline : Outline) : List Call :=
  outline.flatMap fun part => part.2.map fun entry => (part.1, entry.1, entry.2)

/-- Whether each part of speech and each of its word types is named once, and none without word
types. -/
structure IsProper (outline : Outline) : Prop where
  nodup_parts : (outline.map (·.1)).Nodup
  nodup_types : ∀ part ∈ outline, (part.2.map (·.1)).Nodup
  types_ne_nil : ∀ part ∈ outline, part.2 ≠ []

theorem IsProper.tail {part : String × List (UInt64 × List String)} {outline : Outline}
    (h : IsProper (part :: outline)) : outline.IsProper where
  nodup_parts := (List.nodup_cons.1 h.nodup_parts).2
  nodup_types other hother := h.nodup_types other (List.mem_cons_of_mem part hother)
  types_ne_nil other hother := h.types_ne_nil other (List.mem_cons_of_mem part hother)

theorem IsProper.nodup_calls {outline : Outline} (h : outline.IsProper) :
    (outline.calls.map fun call => (call.1, call.2.1)).Nodup := by
  have hcalls : (outline.calls.map fun call => (call.1, call.2.1)) =
      outline.flatMap fun part => part.2.map fun entry => (part.1, entry.1) := by
    rw [calls, List.map_flatMap]
    simp only [List.map_map, Function.comp_def]
  rw [hcalls, List.nodup_flatMap]
  constructor
  · intro part hpart
    have hinjective : Function.Injective fun typeId : UInt64 => (part.1, typeId) :=
      fun _ _ heq => (Prod.mk.inj heq).2
    have hpairs := (h.nodup_types part hpart).map hinjective
    rwa [List.map_map] at hpairs
  · refine (List.pairwise_map.1 h.nodup_parts).imp fun {part other} hne => ?_
    intro call hcall hother
    obtain ⟨entry, -, rfl⟩ := List.mem_map.1 hcall
    obtain ⟨entry', -, heq⟩ := List.mem_map.1 hother
    exact hne (congrArg Prod.fst heq).symm

/-- Calls for the word types of one part of speech. -/
theorem foldl_withSlots {types : List (UInt64 × List String)} (hne : types ≠ []) (part : String)
    (plan : StudyPlan) :
    types.foldl (fun plan entry => plan.withSlots part entry.1 entry.2) plan =
      ⟨plan.slots.insert part (types.foldl (fun map entry => map.insert (typeKey entry.1) entry.2)
        (plan.slots.getD part ∅))⟩ := by
  induction types generalizing plan with
  | nil => contradiction
  | cons entry types ih =>
    cases types with
    | nil => rfl
    | cons next types =>
      rw [List.foldl_cons, ih (List.cons_ne_nil next types), getD_slots_withSlots, if_pos rfl,
        withSlots, Mapping.insert_insert]
      rfl

/-- Calls for parts of speech that a plan does not have yet. -/
theorem foldl_calls {outline : Outline} (h : outline.IsProper) (plan : StudyPlan)
    (hfresh : ∀ part ∈ outline, plan.slots[part.1]? = none) :
    outline.calls.foldl (fun plan call => plan.withSlots call.1 call.2.1 call.2.2) plan =
      ⟨(outline.layout.map fun part => (part.1, Mapping.ofEntries part.2)).foldl
        (fun map part => map.insert part.1 part.2) plan.slots⟩ := by
  induction outline generalizing plan with
  | nil => rfl
  | cons part outline ih =>
    have hnone : plan.slots.getD part.1 ∅ = ∅ := by
      rw [Std.ExtTreeMap.getD_eq_getD_getElem?, hfresh part List.mem_cons_self, Option.getD_none]
    have htypes := foldl_withSlots (h.types_ne_nil part List.mem_cons_self) part.1 plan
    have hentries : part.2.foldl (fun map entry => map.insert (typeKey entry.1) entry.2) ∅ =
        Mapping.ofEntries (part.2.map fun entry => (typeKey entry.1, entry.2)) := by
      rw [Mapping.ofEntries, List.foldl_map]
    rw [hnone, hentries] at htypes
    rw [calls, List.flatMap_cons, List.foldl_append, List.foldl_map, htypes]
    apply ih h.tail
    intro other hother
    have hne : part.1 ≠ other.1 := by
      intro heq
      have hmem : part.1 ∈ outline.map (·.1) := heq ▸ List.mem_map_of_mem hother
      exact (List.nodup_cons.1 h.nodup_parts).1 hmem
    rw [Mapping.getElem?_insert, if_neg hne, hfresh other (List.mem_cons_of_mem part hother)]

/-- A plan is made by a call for each word type. -/
theorem ofCalls_calls {outline : Outline} (h : outline.IsProper) :
    ofCalls outline.calls = outline.layout.plan :=
  foldl_calls h {} fun _ _ => Std.ExtTreeMap.getElem?_empty

end Outline

end Inflection.StudyPlan
