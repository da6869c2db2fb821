import Mathlib.Data.List.Forall2
import Mathlib.Data.List.Nodup
import Inflection.Json.Codec
import Inflection.Json.Number
import Inflection.Proofs.Json.Text
import Inflection.Proofs.Mapping

/-!
Types whose values are read back from what they are written as. It is enough
that they are decoded from what they are encoded as, and that the encoding can be
written. Lists, maps and records have this property if their parts have it.
-/

namespace Inflection.Json

/-- A type of which every value is decoded from its encoding, which can be written as text. -/
class LawfulCodec (α : Type) [Codec α] : Prop where
  decode?_encode (a : α) : Codec.decode? (Codec.encode a) = some a
  isWritable_encode (a : α) : (Codec.encode a).IsWritable

open Codec (encode decode?)
open LawfulCodec (decode?_encode isWritable_encode)
open Value

/-- Whether each value of a type is read from the text that it is written as, and what is read from
any text is read again from the text that it is written as. -/
def RoundTrips (α : Type) [Codec α] : Prop :=
  (∀ a : α, read? (write a) = some a) ∧
    ∀ text : String, (read? text).bind (fun a : α => read? (write a)) = (read? text : Option α)

theorem read?_write {α : Type} [Codec α] [LawfulCodec α] (a : α) : read? (write a) = some a := by
  rw [read?, write, Value.ofText?_text (isWritable_encode a), Option.bind_some, decode?_encode]

theorem roundTrips {α : Type} [Codec α] [LawfulCodec α] : RoundTrips α := by
  refine ⟨read?_write, ?_⟩
  intro text
  cases hread : (read? text : Option α) with
  | none => rfl
  | some a => exact read?_write a

section Lists

variable {α β γ : Type} {list : List α}

theorem mapM_map_eq_some {f : β → Option γ} {g : α → β} {h : α → γ}
    (hf : ∀ a ∈ list, f (g a) = some (h a)) : (list.map g).mapM f = some (list.map h) := by
  induction list with
  | nil => rfl
  | cons a list ih =>
    have hothers := ih fun b hb => hf b (List.mem_cons_of_mem a hb)
    rw [List.map_cons, List.mapM_cons, hf a List.mem_cons_self, hothers]
    rfl

/-- A list is read back if its elements are. -/
theorem mapM_map_eq_self {f : β → Option α} {g : α → β} (hf : ∀ a ∈ list, f (g a) = some a) :
    (list.map g).mapM f = some list := by
  have h := mapM_map_eq_some (h := id) hf
  rwa [List.map_id] at h

theorem of_filter_eq_singleton {p : α → Bool} {a : α} (h : list.filter p = [a]) :
    a ∈ list ∧ p a = true := by
  rw [← List.mem_filter, h]
  exact List.mem_singleton_self a

theorem mapM_eq_some_iff {f : α → Option β} {results : List β} :
    list.mapM f = some results ↔ List.Forall₂ (fun a b => f a = some b) list results := by
  induction list generalizing results with
  | nil => simp [eq_comm]
  | cons a list ih =>
    simp only [List.mapM_cons, Option.bind_eq_bind, Option.pure_def, Option.bind_eq_some_iff, ih,
      Option.some.injEq, List.forall₂_cons_left_iff, eq_comm (b := results)]
    grind

end Lists

section Records

variable {fields : List (String × Value)}

theorem keyed?_record (fields : List (String × Value)) :
    keyed? (fields.map fun (name, value) => (some name, value)) = some fields :=
  mapM_map_eq_self fun _ _ => rfl

theorem only?_eq_some_iff {name : String} {value : Value} :
    only? name fields = some value ↔ fields.filter (·.1 = name) = [(name, value)] := by
  unfold only?
  split
  · rename_i key found hfilter
    obtain rfl : key = name := of_decide_eq_true (of_filter_eq_singleton hfilter).2
    simp [hfilter]
  · rename_i hnone
    exact iff_of_false nofun (hnone _ _)

theorem only?_of_mem (hnames : (fields.map (·.1)).Nodup) {name : String} {value : Value}
    (hmem : (name, value) ∈ fields) : only? name fields = some value := by
  have hfield : fields.filter (·.1 = name) = [(name, value)] := by
    induction fields with
    | nil => contradiction
    | cons field fields ih =>
      rw [List.map_cons, List.nodup_cons] at hnames
      have hfresh : ∀ other ∈ fields, other.1 ≠ field.1 := by
        intro other hother heq
        exact hnames.1 (heq ▸ List.mem_map_of_mem hother)
      rcases List.mem_cons.1 hmem with hfirst | hother
      · subst hfirst
        have hnone : fields.filter (·.1 = name) = [] := by
          rw [List.filter_eq_nil_iff]
          intro other hother
          simpa using hfresh other hother
        rw [List.filter_cons_of_pos (by simp), hnone]
      · have hname : ¬ field.1 = name := Ne.symm (hfresh _ hother)
        rw [List.filter_cons_of_neg (by simpa using hname), ih hnames.2 hother]
  exact only?_eq_some_iff.2 hfield

/-- The fields of a record are found by their names. -/
theorem fields?_record (fields : List (String × Value)) (hnames : (fields.map (·.1)).Nodup) :
    (record fields).fields? (fields.map (·.1)) = some (fields.map (·.2)) := by
  rw [record, Value.fields?, keyed?_record, Option.bind_eq_bind, Option.bind_some]
  exact mapM_map_eq_some fun field hfield => only?_of_mem hnames hfield

theorem isWritable_record (h : ∀ field ∈ fields, field.2.IsWritable) :
    (record fields).IsWritable := by
  apply Value.IsWritable.object
  · intro m hm
    obtain ⟨field, -, rfl⟩ := List.mem_map.1 hm
    rfl
  · intro m hm
    obtain ⟨field, hfield, rfl⟩ := List.mem_map.1 hm
    exact h field hfield

theorem isWritable_variant (name : String) {content : Value} (h : content.IsWritable) :
    (variant name content).IsWritable := by
  have hrecord : (record [(name, content)]).IsWritable := isWritable_record (by simpa using h)
  exact hrecord

end Records

section Numbers

theorem head?_toDigits {n : Nat} (h : (Nat.toDigits 10 n).head? = some '0') : n = 0 := by
  induction n using Nat.strongRecOn with
  | ind n ih =>
    by_cases hsmall : n < 10
    · have hdigit : ∀ d < 10, (Nat.toDigits 10 d).head? = some '0' → d = 0 := by decide
      exact hdigit n hsmall h
    · rw [Nat.toDigits_of_base_le (by decide) (Nat.le_of_not_lt hsmall),
        List.head?_append_of_ne_nil _ Nat.toDigits_ne_nil] at h
      have hzero := ih (n / 10) (by omega) h
      omega

theorem isNumeral_toDigits (n : Nat) : IsNumeral (Nat.toDigits 10 n) where
  ne_nil := Nat.toDigits_ne_nil
  isDigit _ hc := Nat.isDigit_of_mem_toDigits (by decide) (by decide) hc
  leading h := by
    rw [head?_toDigits h]
    rfl

theorem ofDigits_toDigits (n : Nat) : Number.ofDigits (Nat.toDigits 10 n) = n :=
  Nat.ofDigitChars_toDigits (by decide) (by decide)

/-- Digits are all collected if they write a 64-bit integer. -/
theorem Number.Scaled.addInteger_eq {s : Number.Scaled} {digits : List Char}
    (h : Nat.ofDigitChars 10 digits s.significand < UInt64.size) :
    s.addInteger digits = { s with significand := Nat.ofDigitChars 10 digits s.significand } := by
  induction digits generalizing s with
  | nil => rfl
  | cons c digits ih =>
    have hrest : Nat.ofDigitChars 10 digits (s.extend c) < UInt64.size := h
    have hfits : s.extend c < UInt64.size := by
      have hle : s.extend c ≤ 10 ^ digits.length * s.extend c :=
        Nat.le_mul_of_pos_left _ (Nat.pow_pos (by decide))
      rw [Nat.ofDigitChars_eq_ofDigitChars_zero] at hrest
      omega
    have hcollected := @ih { s with significand := s.extend c } hrest
    rw [addInteger, if_pos hfits, hcollected]
    rfl

theorem inRange_ofNat {n : Nat} (h : n < UInt64.size) : (Number.ofNat n).inRange = true := by
  have hdigits : Nat.ofDigitChars 10 (Nat.toDigits 10 n) 0 = n := ofDigits_toDigits n
  have hinteger : Number.Scaled.addInteger {} (Nat.toDigits 10 n) = ⟨_, 0⟩ :=
    Number.Scaled.addInteger_eq (hdigits.symm ▸ h)
  have hscaled : (Number.ofNat n).scaled = { significand := n } := by
    rw [hdigits] at hinteger
    exact hinteger
  rw [Number.inRange, hscaled, if_pos (.inr (Int.le_refl 0))]

end Numbers

instance : LawfulCodec String where
  decode?_encode _ := rfl
  isWritable_encode text := .string text

instance : LawfulCodec UInt64 where
  decode?_encode n := by
    have hnumber : (Number.ofNat n.toNat).toNat? = some n.toNat :=
      congrArg some (ofDigits_toDigits n.toNat)
    simp only [encode, decode?, hnumber, Option.bind_some, UInt64.toNat_lt_size, if_pos,
      UInt64.ofNat_toNat]
  isWritable_encode n := .number ⟨isNumeral_toDigits n.toNat, nofun, nofun⟩

/-- A missing value is told apart from all others if none of these is written as `null`. -/
theorem LawfulCodec.option {α : Type} [Codec α] [LawfulCodec α]
    (hnull : ∀ a : α, encode a ≠ .null) : LawfulCodec (Option α) where
  decode?_encode
    | none => rfl
    | some a => by
      have h := decode?_encode a
      have hne := hnull a
      simp only [encode, decode?, h]
      rfl
  isWritable_encode
    | none => .null
    | some a => isWritable_encode a

instance : LawfulCodec (Option String) := LawfulCodec.option nofun

instance {α : Type} [Codec α] [LawfulCodec α] : LawfulCodec (List α) where
  decode?_encode _ := mapM_map_eq_self fun a _ => decode?_encode a
  isWritable_encode list := by
    apply Value.IsWritable.array
    intro v hv
    obtain ⟨a, -, rfl⟩ := List.mem_map.1 hv
    exact isWritable_encode a

/-- A record is decoded to the map of what its fields are decoded to. -/
theorem decode?_record {α β : Type} [Codec α] {list : List β} {key : β → String}
    {value : β → Value} {result : β → α} (h : ∀ b ∈ list, decode? (value b) = some (result b)) :
    (decode? (record (list.map fun b => (key b, value b))) : Option (Std.ExtTreeMap String α)) =
      some (Mapping.ofEntries (list.map fun b => (key b, result b))) := by
  have hkeyed := keyed?_record (list.map fun b => (key b, value b))
  have hentries : (list.map fun b => (key b, value b)).mapM
      (fun (key, value) => ((decode? value).map (key, ·) : Option (String × α))) =
        some (list.map fun b => (key b, result b)) := by
    apply mapM_map_eq_some
    intro b hb
    simp only [h b hb, Option.map_some]
  simp only [decode?, record, hkeyed, hentries, Option.bind_eq_bind, Option.bind_some,
    Option.pure_def]

instance {α : Type} [Codec α] [LawfulCodec α] : LawfulCodec (Std.ExtTreeMap String α) where
  decode?_encode map := by
    have hdecode := @decode?_record α _ _ map.toList (·.1) (fun entry => encode entry.2) (·.2)
      fun entry _ => decode?_encode entry.2
    rw [List.map_id', Mapping.ofEntries_toList] at hdecode
    exact hdecode
  isWritable_encode map := by
    apply isWritable_record
    intro field hfield
    obtain ⟨entry, -, rfl⟩ := List.mem_map.1 hfield
    exact isWritable_encode entry.2

end Inflection.Json
