import Mathlib.Data.List.TakeDrop
import Inflection.Json.Reader
import Inflection.Json.Writer

/-!
Reading what has been written. Each part of a value is read back from its text,
whatever follows it, and so is the value. A number alone has no end of its own:
what follows must not belong to it.
-/

namespace Inflection.Json

/-- Whether digits write a whole number, without a zero before another digit. -/
structure IsNumeral (digits : List Char) : Prop where
  ne_nil : digits ≠ []
  isDigit : ∀ c ∈ digits, c.isDigit = true
  leading : digits.head? = some '0' → digits.length = 1

/-- Whether the parts of a number are digits. -/
structure Number.IsWritable (number : Number) : Prop where
  whole : IsNumeral number.digits
  fraction : ∀ digits ∈ number.fraction, digits ≠ [] ∧ ∀ c ∈ digits, c.isDigit = true
  exponent : ∀ part ∈ number.exponent, part.2 ≠ [] ∧ ∀ c ∈ part.2, c.isDigit = true

/-- Whether the strings of a value are texts and its numbers are made of digits. -/
inductive Value.IsWritable : Value → Prop where
  | null : IsWritable .null
  | bool (b : Bool) : IsWritable (.bool b)
  | number {n : Number} (h : n.IsWritable) : IsWritable (.number n)
  | string (text : String) : IsWritable (.string (some text))
  | array {elements : List Value} (h : ∀ v ∈ elements, IsWritable v) : IsWritable (.array elements)
  | object {members : List (Option String × Value)} (hkeys : ∀ m ∈ members, m.1.isSome = true)
      (hvalues : ∀ m ∈ members, IsWritable m.2) : IsWritable (.object members)

namespace Reader

section Strings

theorem digit?_digitChar : ∀ d < 16, Hexadecimal.digit? (Nat.digitChar d) = some d := by
  decide

/-- A character below the blank is written by its number. -/
theorem number?_of_lt {n : Nat} (h : n < 32) :
    Hexadecimal.number? ['0', '0', Nat.digitChar (n / 16), Nat.digitChar (n % 16)] = some n := by
  have hzero : Hexadecimal.digit? '0' = some 0 := by decide
  have hhigh := digit?_digitChar (n / 16) (by omega)
  have hlow := digit?_digitChar (n % 16) (by omega)
  simp only [Hexadecimal.number?, List.foldlM_cons, List.foldlM_nil, hzero, hhigh, hlow,
    Option.map_some, Option.bind_eq_bind, Option.bind_some, Option.pure_def, Option.some.injEq]
  omega

theorem codeUnits_escaped {c escape : Char} {rest : List Char} (hu : escape ≠ 'u')
    (h : escaped? escape = some c) : codeUnits ('\\' :: escape :: rest) =
      (codeUnits rest).map fun (units, rest) => (c.toNat :: units, rest) := by
  rw [codeUnits]
  · rw [h]
    cases codeUnits rest <;> rfl
  · intro a b c' d rest' hescape
    exact absurd hescape hu

theorem codeUnits_plain {c : Char} {rest : List Char} (hquote : c ≠ '"') (hslash : c ≠ '\\')
    (h : ¬ c.toNat < 32) : codeUnits (c :: rest) =
      (codeUnits rest).map fun (units, rest) => (c.toNat :: units, rest) := by
  rw [codeUnits, if_neg h]
  · exact hquote
  · intro _ _ _ _ _ hc
    exact absurd hc hslash
  · intro _ _ hc
    exact absurd hc hslash

theorem codeUnits_character (c : Char) (rest : List Char) :
    codeUnits (Writer.character c ++ rest) =
      (codeUnits rest).map fun (units, rest) => (c.toNat :: units, rest) := by
  unfold Writer.character
  split
  case h_8 hquote hslash _ _ _ _ _ =>
    split
    · rename_i hlow
      simp only [List.cons_append, List.nil_append, codeUnits, number?_of_lt hlow]
      cases codeUnits rest <;> rfl
    · rename_i hlow
      exact codeUnits_plain hquote hslash hlow
  all_goals exact codeUnits_escaped (by decide) rfl

theorem codeUnits_text (text rest : List Char) :
    codeUnits (text.flatMap Writer.character ++ '"' :: rest) =
      some (text.map Char.toNat, rest) := by
  induction text with
  | nil => rfl
  | cons c text ih =>
    rw [List.flatMap_cons, List.append_assoc, codeUnits_character, ih]
    rfl

/-- The number of a character is no half of a surrogate pair. -/
theorem ofUnits?_map_toNat (text : List Char) : ofUnits? (text.map Char.toNat) = some text := by
  have hvalid (c : Char) : c.toNat.isValidChar := c.valid
  have hsurrogate (c : Char) : isHighSurrogate c.toNat = false := by
    have h := hvalid c
    simp only [isHighSurrogate, Nat.isValidChar] at h ⊢
    grind
  induction text with
  | nil => rfl
  | cons c text ih =>
    cases text with
    | nil => simp [ofUnits?, hvalid]
    | cons d text =>
      rw [List.map_cons, List.map_cons] at *
      rw [ofUnits?, hsurrogate, ih]
      simp [hvalid]

/-- A string is read back from its text after the opening quote. -/
theorem string_append (text : String) (rest : List Char) :
    string (text.toList.flatMap Writer.character ++ '"' :: rest) = some (some text, rest) := by
  rw [string, codeUnits_text]
  simp only [Option.map_some, ofUnits?_map_toNat, String.ofList_toList]

end Strings

section Numbers

/-- Whether a text does not begin with a character that could belong to a number. -/
def EndsNumber (rest : List Char) : Prop :=
  ∀ c ∈ rest.head?, c.isDigit = false ∧ c ≠ '.' ∧ c ≠ 'e' ∧ c ≠ 'E'

theorem someDigits_append {digits rest : List Char} (hne : digits ≠ [])
    (hdigits : ∀ c ∈ digits, c.isDigit = true) (hrest : ∀ c ∈ rest.head?, c.isDigit = false) :
    someDigits (digits ++ rest) = some (digits, rest) := by
  have hstop : rest.takeWhile Char.isDigit = [] ∧ rest.dropWhile Char.isDigit = rest := by
    cases rest with
    | nil => exact ⟨rfl, rfl⟩
    | cons c rest =>
      have hc : ¬ c.isDigit = true := by simp [hrest c rfl]
      exact ⟨List.takeWhile_cons_of_neg hc, List.dropWhile_cons_of_neg hc⟩
  have hspan : (digits ++ rest).span Char.isDigit = (digits, rest) := by
    rw [List.span_eq_takeWhile_dropWhile, List.takeWhile_append_of_pos hdigits,
      List.dropWhile_append_of_pos hdigits, hstop.1, hstop.2, List.append_nil]
  unfold someDigits
  rw [hspan]
  cases digits with
  | nil => contradiction
  | cons c digits => rfl

theorem fraction_append {fraction : Option (List Char)} {rest : List Char}
    (hfraction : ∀ digits ∈ fraction, digits ≠ [] ∧ ∀ c ∈ digits, c.isDigit = true)
    (hrest : ∀ c ∈ rest.head?, c.isDigit = false ∧ c ≠ '.') :
    Reader.fraction (Writer.fraction fraction ++ rest) = some (fraction, rest) := by
  cases fraction with
  | none =>
    cases rest with
    | nil => rfl
    | cons c rest =>
      have hc : c ≠ '.' := (hrest c rfl).2
      simp [Writer.fraction, Reader.fraction, hc]
  | some digits =>
    obtain ⟨hne, hdigits⟩ := hfraction digits rfl
    have hread := someDigits_append hne hdigits fun c hc => (hrest c hc).1
    simp [Writer.fraction, Reader.fraction, hread]

theorem ne_of_isDigit {c d : Char} (hc : c.isDigit = true) (hd : d.isDigit = false) : c ≠ d := by
  intro h
  rw [h, hd] at hc
  contradiction

theorem exponentSign_append {negative : Bool} {digits rest : List Char} (hne : digits ≠ [])
    (hdigits : ∀ c ∈ digits, c.isDigit = true) :
    exponentSign (Writer.sign negative ++ (digits ++ rest)) = (negative, digits ++ rest) := by
  cases negative with
  | true => rfl
  | false =>
    obtain ⟨c, digits, rfl⟩ := List.exists_cons_of_ne_nil hne
    have hc := hdigits c List.mem_cons_self
    have hminus : c ≠ '-' := ne_of_isDigit hc (by decide)
    have hplus : c ≠ '+' := ne_of_isDigit hc (by decide)
    simp [Writer.sign, exponentSign, hminus, hplus]

theorem sign_append {negative : Bool} {digits rest : List Char} (hne : digits ≠ [])
    (hdigits : ∀ c ∈ digits, c.isDigit = true) :
    sign (Writer.sign negative ++ (digits ++ rest)) = (negative, digits ++ rest) := by
  cases negative with
  | true => rfl
  | false =>
    obtain ⟨c, digits, rfl⟩ := List.exists_cons_of_ne_nil hne
    have hminus : c ≠ '-' := ne_of_isDigit (hdigits c List.mem_cons_self) (by decide)
    simp [Writer.sign, sign, hminus]

theorem exponent_append {exponent : Option (Bool × List Char)} {rest : List Char}
    (hexponent : ∀ part ∈ exponent, part.2 ≠ [] ∧ ∀ c ∈ part.2, c.isDigit = true)
    (hrest : EndsNumber rest) :
    Reader.exponent (Writer.exponent exponent ++ rest) = some (exponent, rest) := by
  cases exponent with
  | none =>
    cases rest with
    | nil => rfl
    | cons c rest =>
      obtain ⟨-, -, hlower, hupper⟩ := hrest c rfl
      simp [Writer.exponent, Reader.exponent, hlower, hupper]
  | some part =>
    obtain ⟨negative, digits⟩ := part
    obtain ⟨hne, hdigits⟩ := hexponent _ rfl
    have hread := someDigits_append hne hdigits fun c hc => (hrest c hc).1
    have hsign : exponentSign (Writer.sign negative ++ (digits ++ rest)) =
        (negative, digits ++ rest) := exponentSign_append (by simpa using hne) hdigits
    simp [Writer.exponent, Reader.exponent, hsign, hread]

theorem head?_exponent_append (exponent : Option (Bool × List Char)) {rest : List Char}
    (hrest : EndsNumber rest) :
    ∀ c ∈ (Writer.exponent exponent ++ rest).head?, c.isDigit = false ∧ c ≠ '.' := by
  intro c hc
  cases exponent with
  | none => exact ⟨(hrest c hc).1, (hrest c hc).2.1⟩
  | some part =>
    obtain rfl : 'e' = c := Option.some.inj hc
    decide

theorem head?_fraction_append (fraction : Option (List Char)) {rest : List Char}
    (hrest : ∀ c ∈ rest.head?, c.isDigit = false ∧ c ≠ '.') :
    ∀ c ∈ (Writer.fraction fraction ++ rest).head?, c.isDigit = false := by
  intro c hc
  cases fraction with
  | none => exact (hrest c hc).1
  | some digits =>
    obtain rfl : '.' = c := Option.some.inj hc
    decide

/-- A number is read back if it has an end. -/
theorem number_append {n : Number} {rest : List Char} (hn : n.IsWritable)
    (hrest : EndsNumber rest) : number (Writer.number n ++ rest) = some (n, rest) := by
  obtain ⟨negative, digits, fraction, exponent⟩ := n
  obtain ⟨⟨hne, hdigits, hleading⟩, hfraction, hexponent⟩ := hn
  have hafter := head?_exponent_append exponent hrest
  have hwhole := someDigits_append hne hdigits (head?_fraction_append fraction hafter)
  have hzero : ¬ (digits.head? = some '0' ∧ digits.length ≠ 1) := by
    intro h
    exact h.2 (hleading h.1)
  simp only [number, Writer.number, List.append_assoc, sign_append hne hdigits, hwhole, hzero,
    fraction_append hfraction hafter, exponent_append hexponent hrest, Option.bind_eq_bind,
    Option.bind_some]
  rfl

end Numbers

section Values

theorem skip_cons {c : Char} {rest : List Char} (h : isBlank c = false) :
    skip (c :: rest) = c :: rest := by
  rw [skip, List.dropWhile_cons_of_neg (by simp [h])]

/-- Whether a character begins a number. -/
def BeginsNumber (c : Char) : Prop := c = '-' ∨ c.isDigit = true

theorem exists_number_eq_cons {n : Number} (hn : n.IsWritable) :
    ∃ c rest, Writer.number n = c :: rest ∧ BeginsNumber c := by
  obtain ⟨negative, digits, fraction, exponent⟩ := n
  obtain ⟨c, digits, rfl⟩ := List.exists_cons_of_ne_nil hn.whole.ne_nil
  cases negative with
  | true => exact ⟨'-', _, rfl, .inl rfl⟩
  | false => exact ⟨c, _, rfl, .inr (hn.whole.isDigit c List.mem_cons_self)⟩

theorem BeginsNumber.ne {c d : Char} (hc : BeginsNumber c) (hminus : d ≠ '-')
    (hd : d.isDigit = false) : c ≠ d := by
  cases hc with
  | inl h => exact h ▸ hminus.symm
  | inr h => exact ne_of_isDigit h hd

theorem BeginsNumber.isBlank_eq_false {c : Char} (hc : BeginsNumber c) : isBlank c = false := by
  have hspace : c ≠ ' ' := hc.ne (by decide) (by decide)
  have htab : c ≠ '\t' := hc.ne (by decide) (by decide)
  have hline : c ≠ '\n' := hc.ne (by decide) (by decide)
  have hreturn : c ≠ '\r' := hc.ne (by decide) (by decide)
  simp [isBlank, hspace, htab, hline, hreturn]

theorem value_of_beginsNumber {steps : Nat} {c : Char} {rest : List Char} (hc : BeginsNumber c) :
    value (steps + 1) (c :: rest) =
      (number (c :: rest)).map fun (number, rest) => (.number number, rest) := by
  rw [value, skip_cons hc.isBlank_eq_false]
  have hnull : c ≠ 'n' := hc.ne (by decide) (by decide)
  have htrue : c ≠ 't' := hc.ne (by decide) (by decide)
  have hfalse : c ≠ 'f' := hc.ne (by decide) (by decide)
  have hstring : c ≠ '"' := hc.ne (by decide) (by decide)
  have harray : c ≠ '[' := hc.ne (by decide) (by decide)
  have hobject : c ≠ '\x7b' := hc.ne (by decide) (by decide)
  split <;> simp_all

/-- The text of a value begins neither with a blank nor with the end of an array. -/
theorem exists_value_eq_cons {v : Value} (hv : v.IsWritable) :
    ∃ c rest, Writer.value v = c :: rest ∧ isBlank c = false ∧ c ≠ ']' := by
  cases hv with
  | null => exact ⟨'n', _, rfl, by decide, by decide⟩
  | bool b =>
    cases b with
    | true => exact ⟨'t', _, rfl, by decide, by decide⟩
    | false => exact ⟨'f', _, rfl, by decide, by decide⟩
  | number hn =>
    obtain ⟨c, rest, hnumber, hc⟩ := exists_number_eq_cons hn
    refine ⟨c, rest, ?_, hc.isBlank_eq_false, hc.ne (by decide) (by decide)⟩
    rw [Writer.value, hnumber]
  | string text => exact ⟨'"', _, rfl, by decide, by decide⟩
  | array h => exact ⟨'[', _, rfl, by decide, by decide⟩
  | object hkeys hvalues => exact ⟨'\x7b', _, rfl, by decide, by decide⟩

theorem elementsOf_cons_cons (first second : Value) (others : List Value) :
    Writer.elementsOf (first :: second :: others) =
      Writer.value first ++ ',' :: Writer.elementsOf (second :: others) := by
  rw [Writer.elementsOf]
  exact nofun

theorem membersOf_cons_cons (key : Option String) (first : Value) (second : Option String × Value)
    (others : List (Option String × Value)) :
    Writer.membersOf ((key, first) :: second :: others) = Writer.string (key.getD "").toList ++
      ':' :: Writer.value first ++ ',' :: Writer.membersOf (second :: others) := by
  rw [Writer.membersOf]
  exact nofun

theorem elementsOf_eq (elements : List Value) :
    Writer.elementsOf elements = [','].intercalate (elements.map Writer.value) := by
  induction elements with
  | nil => rfl
  | cons first others ih =>
    cases others with
    | nil => rw [Writer.elementsOf, List.map_singleton, List.intercalate_singleton]
    | cons second others =>
      rw [elementsOf_cons_cons, ih]
      simp only [List.map_cons, List.intercalate_cons_cons, List.append_assoc,
        List.singleton_append]

/-- The text of a member of an object. -/
def memberText (member : Option String × Value) : List Char :=
  Writer.string (member.1.getD "").toList ++ ':' :: Writer.value member.2

theorem membersOf_eq (members : List (Option String × Value)) :
    Writer.membersOf members = [','].intercalate (members.map memberText) := by
  induction members with
  | nil => rfl
  | cons first others ih =>
    obtain ⟨key, first⟩ := first
    cases others with
    | nil => rw [Writer.membersOf, List.map_singleton, List.intercalate_singleton, memberText]
    | cons second others =>
      rw [membersOf_cons_cons, ih]
      simp only [List.map_cons, List.intercalate_cons_cons, List.append_assoc,
        List.singleton_append, memberText]

theorem exists_elementsOf_eq_cons {first : Value} {others : List Value}
    (h : ∀ v ∈ first :: others, v.IsWritable) :
    ∃ c rest, Writer.elementsOf (first :: others) = c :: rest ∧ isBlank c = false ∧ c ≠ ']' := by
  obtain ⟨c, text, htext, hc⟩ := exists_value_eq_cons (h first List.mem_cons_self)
  cases others with
  | nil => exact ⟨c, text, htext, hc⟩
  | cons second others =>
    refine ⟨c, text ++ ',' :: Writer.elementsOf (second :: others), ?_, hc⟩
    rw [elementsOf_cons_cons, htext]
    rfl

theorem exists_membersOf_eq_cons (first : Option String × Value)
    (others : List (Option String × Value)) :
    ∃ rest, Writer.membersOf (first :: others) = '"' :: rest := by
  obtain ⟨key, value⟩ := first
  cases others with
  | nil => exact ⟨_, rfl⟩
  | cons second others => exact ⟨_, rfl⟩

/-- Whether values, elements and members of a bounded length are read back from their texts. The
end of an array or object belongs to the text. -/
structure ReadsBack (steps : Nat) : Prop where
  value : ∀ v rest, v.IsWritable → EndsNumber rest → (Writer.value v).length < steps →
    Reader.value steps (Writer.value v ++ rest) = some (v, rest)
  elements : ∀ list rest, list ≠ [] → (∀ v ∈ list, v.IsWritable) →
    (Writer.elementsOf list).length + 1 < steps →
    Reader.elements steps (Writer.elementsOf list ++ ']' :: rest) = some (list, rest)
  members : ∀ list rest, list ≠ [] → (∀ m ∈ list, m.1.isSome = true) →
    (∀ m ∈ list, m.2.IsWritable) → (Writer.membersOf list).length + 1 < steps →
    Reader.members steps (Writer.membersOf list ++ '\x7d' :: rest) = some (list, rest)

theorem readsBack_value {steps : Nat} (h : ReadsBack steps) (v : Value) (rest : List Char)
    (hv : v.IsWritable) (hrest : EndsNumber rest) (hlength : (Writer.value v).length < steps + 1) :
    Reader.value (steps + 1) (Writer.value v ++ rest) = some (v, rest) := by
  cases hv with
  | null => rfl
  | bool b => cases b <;> rfl
  | number hn =>
    obtain ⟨c, text, hnumber, hc⟩ := exists_number_eq_cons hn
    have hread := number_append hn hrest
    rw [hnumber, List.cons_append] at hread
    rw [Writer.value, hnumber, List.cons_append, value_of_beginsNumber hc, hread]
    rfl
  | string text =>
    simp [Writer.value, Writer.string, Reader.value, string_append, skip_cons, isBlank]
  | @array list hlist =>
    simp only [Writer.value, List.cons_append, List.append_assoc, List.nil_append, List.length_cons,
      List.length_append, List.length_nil] at hlength ⊢
    rw [Reader.value, skip_cons (by decide)]
    cases list with
    | nil => rfl
    | cons first others =>
      have hread := h.elements (first :: others) rest (List.cons_ne_nil _ _) hlist (by omega)
      obtain ⟨c, text, htext, hblank, hend⟩ := exists_elementsOf_eq_cons hlist
      rw [htext, List.cons_append] at hread ⊢
      simp only [skip_cons hblank]
      split
      · rename_i heq
        exact absurd (List.cons.inj heq).1 hend
      · rw [hread]
        rfl
  | @object list hkeys hvalues =>
    simp only [Writer.value, List.cons_append, List.append_assoc, List.nil_append, List.length_cons,
      List.length_append, List.length_nil] at hlength ⊢
    rw [Reader.value, skip_cons (by decide)]
    cases list with
    | nil => rfl
    | cons first others =>
      have hread := h.members (first :: others) rest (List.cons_ne_nil _ _) hkeys hvalues (by omega)
      obtain ⟨text, htext⟩ := exists_membersOf_eq_cons first others
      rw [htext, List.cons_append] at hread ⊢
      simp [skip_cons, isBlank, hread]

theorem endsNumber_cons {c : Char} {rest : List Char} (hc : c = ',' ∨ c = ']' ∨ c = '\x7d') :
    EndsNumber (c :: rest) := by
  intro d hd
  obtain rfl : c = d := Option.some.inj hd
  rcases hc with rfl | rfl | rfl <;> decide

theorem readsBack_elements {steps : Nat} (h : ReadsBack steps) (list : List Value)
    (rest : List Char) (hne : list ≠ []) (hlist : ∀ v ∈ list, v.IsWritable)
    (hlength : (Writer.elementsOf list).length + 1 < steps + 1) :
    Reader.elements (steps + 1) (Writer.elementsOf list ++ ']' :: rest) = some (list, rest) := by
  obtain ⟨first, others, rfl⟩ := List.exists_cons_of_ne_nil hne
  have hfirst := hlist first List.mem_cons_self
  cases others with
  | nil =>
    have hread := h.value first (']' :: rest) hfirst (endsNumber_cons (by simp))
      (by simpa [Writer.elementsOf] using hlength)
    rw [Writer.elementsOf, Reader.elements, hread]
    simp [skip_cons, isBlank]
  | cons second others =>
    rw [elementsOf_cons_cons, List.length_append, List.length_cons] at hlength
    have hread := h.value first (',' :: (Writer.elementsOf (second :: others) ++ ']' :: rest))
      hfirst (endsNumber_cons (by simp)) (by omega)
    have hothers := h.elements (second :: others) rest (List.cons_ne_nil _ _)
      (fun v hv => hlist v (List.mem_cons_of_mem first hv)) (by omega)
    rw [elementsOf_cons_cons, List.append_assoc, List.cons_append, Reader.elements, hread]
    simp [skip_cons, isBlank, hothers]

theorem readsBack_members {steps : Nat} (h : ReadsBack steps)
    (list : List (Option String × Value)) (rest : List Char) (hne : list ≠ [])
    (hkeys : ∀ m ∈ list, m.1.isSome = true) (hvalues : ∀ m ∈ list, m.2.IsWritable)
    (hlength : (Writer.membersOf list).length + 1 < steps + 1) :
    Reader.members (steps + 1) (Writer.membersOf list ++ '\x7d' :: rest) = some (list, rest) := by
  obtain ⟨⟨key, first⟩, others, rfl⟩ := List.exists_cons_of_ne_nil hne
  obtain ⟨key, rfl⟩ := Option.isSome_iff_exists.1 (hkeys _ List.mem_cons_self)
  have hfirst := hvalues _ List.mem_cons_self
  cases others with
  | nil =>
    have hread := h.value first ('\x7d' :: rest) hfirst (endsNumber_cons (by simp))
      (by simp [Writer.membersOf] at hlength; omega)
    simp [Writer.membersOf, Writer.string, Reader.members, string_append, hread, skip_cons, isBlank]
  | cons second others =>
    rw [membersOf_cons_cons, List.length_append, List.length_append, List.length_cons,
      List.length_cons] at hlength
    have hread := h.value first (',' :: (Writer.membersOf (second :: others) ++ '\x7d' :: rest))
      hfirst (endsNumber_cons (by simp)) (by omega)
    have hothers := h.members (second :: others) rest (List.cons_ne_nil _ _)
      (fun m hm => hkeys m (List.mem_cons_of_mem _ hm))
      (fun m hm => hvalues m (List.mem_cons_of_mem _ hm)) (by omega)
    simp [membersOf_cons_cons, Writer.string, Reader.members, string_append, hread, hothers,
      skip_cons, isBlank]

theorem readsBack (steps : Nat) : ReadsBack steps := by
  induction steps with
  | zero => exact ⟨nofun, nofun, nofun⟩
  | succ steps ih => exact ⟨readsBack_value ih, readsBack_elements ih, readsBack_members ih⟩

end Values

end Reader

/-- A value is read back from its text. -/
theorem Value.ofText?_text {v : Value} (hv : v.IsWritable) :
    Value.ofText? v.text.toList = some v := by
  have hall := Reader.readsBack ((Writer.value v).length + 1)
  have hread := hall.value v [] hv nofun (Nat.lt_succ_self _)
  rw [List.append_nil] at hread
  rw [Value.text, String.toList_ofList, Value.ofText?, hread]
  rfl

end Inflection.Json
