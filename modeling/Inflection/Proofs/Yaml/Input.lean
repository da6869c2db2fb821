import Inflection.Yaml.Input

/-!
The place after a text. Within a line it lies as many columns further on as the
text has characters, and as many bytes as it takes.
-/

namespace Inflection.Yaml

/-- Whether no line ends in a text. -/
def IsUnbroken (text : List Char) : Prop := ∀ c ∈ text, isBreak c = false

theorem isUnbroken_replicate (depth : Nat) : IsUnbroken (List.replicate depth ' ') := by
  intro c hc
  rw [List.eq_of_mem_replicate hc]
  decide

/-- Whether a text does not begin with what is passed between tokens: blanks, line breaks, comments
and byte order marks. -/
def IsSolid (text : List Char) : Prop :=
  ∀ c ∈ text.head?, isBlank c = false ∧ isBreak c = false ∧ c ≠ '#' ∧ c ≠ '\ufeff'

theorem isSolid_nil : IsSolid [] := nofun

theorem isSolid_cons {c : Char} {text : List Char}
    (h : isBlank c = false ∧ isBreak c = false ∧ c ≠ '#' ∧ c ≠ '\ufeff') : IsSolid (c :: text) := by
  intro d hd
  rwa [← Option.some.inj hd]

namespace Place

/-- The place after some text. -/
def after (place : Place) (text : List Char) : Place := text.foldl Place.pass place

@[simp] theorem after_nil (place : Place) : place.after [] = place := rfl

@[simp] theorem after_cons (place : Place) (c : Char) (text : List Char) :
    place.after (c :: text) = (place.pass c).after text := rfl

theorem after_append (place : Place) (text more : List Char) :
    place.after (text ++ more) = (place.after text).after more :=
  List.foldl_append

theorem pass_of_unbroken (place : Place) {c : Char} (hc : isBreak c = false) : place.pass c =
    { place with bytes := place.bytes + c.utf8Size, column := place.column + 1 } := by
  rw [pass, hc]
  rfl

theorem after_of_isUnbroken (place : Place) {text : List Char} (h : IsUnbroken text) :
    place.after text =
      { bytes := place.bytes + (String.ofList text).utf8ByteSize
        line := place.line
        column := place.column + text.length } := by
  induction text generalizing place with
  | nil => rfl
  | cons c text ih =>
    have hc := h c List.mem_cons_self
    have htext : IsUnbroken text := fun d hd => h d (List.mem_cons_of_mem c hd)
    rw [after_cons, pass_of_unbroken place hc, ih _ htext, String.ofList_cons,
      String.utf8ByteSize_append, String.utf8ByteSize_singleton, List.length_cons]
    simp only [Nat.add_assoc, Nat.add_comm 1]

theorem column_after_lineFeed (place : Place) (depth : Nat) :
    (place.after ('\n' :: List.replicate depth ' ')).column = depth := by
  rw [after_cons, after_of_isUnbroken _ (isUnbroken_replicate depth), List.length_replicate]
  exact Nat.zero_add depth

end Place

theorem Input.drop_append (text rest : List Char) (place : Place) :
    Input.drop ⟨text ++ rest, place⟩ text.length = ⟨rest, place.after text⟩ := by
  induction text generalizing place with
  | nil => rfl
  | cons c text ih => exact ih (place.pass c)

theorem Input.drop_one {input : Input} {c : Char} {rest : List Char} (h : input.rest = c :: rest) :
    input.drop 1 = ⟨rest, input.place.pass c⟩ := by
  rw [drop, h]
  rfl

section Streams

/-- Whether a text can be a stream as it stands: its characters are allowed, and its lines end with
line feeds alone. -/
def IsStream (text : List Char) : Prop :=
  ∀ c ∈ text, isAllowed c = true ∧ c ≠ '\r' ∧ c ≠ '\u0085'

instance (text : List Char) : Decidable (IsStream text) :=
  List.decidableBAll _ text

variable {text more : List Char}

theorem IsStream.append (h : IsStream text) (hmore : IsStream more) : IsStream (text ++ more) := by
  intro c hc
  rcases List.mem_append.1 hc with hfirst | hlast
  · exact h c hfirst
  · exact hmore c hlast

theorem IsStream.cons {c : Char} (hc : isAllowed c = true ∧ c ≠ '\r' ∧ c ≠ '\u0085')
    (h : IsStream text) : IsStream (c :: text) :=
  List.forall_mem_cons.2 ⟨hc, h⟩

theorem isStream_flatMap {α : Type} {list : List α} {text : α → List Char}
    (h : ∀ a ∈ list, IsStream (text a)) : IsStream (list.flatMap text) := by
  intro c hc
  obtain ⟨a, ha, hc⟩ := List.mem_flatMap.1 hc
  exact h a ha c hc

theorem isStream_intercalate {texts : List (List Char)} (h : ∀ text ∈ texts, IsStream text) :
    IsStream ([','].intercalate texts) := by
  induction texts with
  | nil => exact List.forall_mem_nil _
  | cons text texts ih =>
    have htext := h text List.mem_cons_self
    have hothers := ih fun other hother => h other (List.mem_cons_of_mem text hother)
    cases texts with
    | nil => rwa [List.intercalate_singleton]
    | cons next texts =>
      rw [List.intercalate_cons_cons, List.append_assoc]
      exact htext.append (hothers.cons (by decide))

theorem isStream_of_printable (h : ∀ c ∈ text, 32 ≤ c.toNat ∧ c.toNat ≤ 126) : IsStream text := by
  intro c hc
  obtain ⟨hlow, hhigh⟩ := h c hc
  refine ⟨by simp [isAllowed, hlow, hhigh], ?_, ?_⟩
  · rintro rfl
    exact absurd hlow (by decide)
  · rintro rfl
    exact absurd hhigh (by decide)

/-- A text without the rare ends of lines is read as it is. -/
theorem unifyBreaks_eq_self (h : IsStream text) : unifyBreaks text = text := by
  induction text with
  | nil => rfl
  | cons c text ih =>
    obtain ⟨-, hreturn, hnext⟩ := h c List.mem_cons_self
    have htext := ih fun d hd => h d (List.mem_cons_of_mem c hd)
    rw [unifyBreaks, htext]
    · rw [if_neg (by simp [hreturn, hnext])]
    · intro rest hc
      exact absurd hc hreturn

end Streams

end Inflection.Yaml
