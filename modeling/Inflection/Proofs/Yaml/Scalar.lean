import Inflection.Proofs.Json.Text
import Inflection.Proofs.Yaml.Input
import Inflection.Yaml.Scalar

/-!
Scalars that are read back. What is written as a JSON string is read between double
quotes as the same text; digits are read between single quotes, and words without
quotes.
-/

namespace Inflection.Yaml

/-- The characters that a YAML stream can hold in a JSON string without ending a line. Those below
the blank are escaped there. -/
def IsPortable (c : Char) : Prop :=
  (c.toNat ≤ 0x7E ∨ (0xA0 ≤ c.toNat ∧ c.toNat ≤ 0xD7FF) ∨ (0xE000 ≤ c.toNat ∧ c.toNat ≤ 0xFFFD) ∨
    0x10000 ≤ c.toNat) ∧ c ≠ '\u2028' ∧ c ≠ '\u2029'

instance (c : Char) : Decidable (IsPortable c) := inferInstanceAs (Decidable (_ ∧ _))

namespace Scalar

open Json.Writer (character)

section DoubleQuoted

variable {place : Place}

theorem isBreak_of_isPortable {c : Char} (hc : IsPortable c) (hlow : ¬ c.toNat < 32) :
    isBreak c = false := by
  have hfeed : c ≠ '\n' := by
    intro h
    rw [h] at hlow
    exact hlow (by decide)
  simp [isBreak, hfeed, hc.2]

/-- A character that follows a backslash in a JSON string means the same in double quotes. -/
theorem doubleQuotedFrom_escaped {steps : Nat} {text blanks rest : List Char} {c escape : Char}
    (hbreak : isBreak escape = false) (hwidth : escapeWidth? escape = none)
    (h : escaped? escape = some c) (hcolumn : place.column ≠ 0) :
    doubleQuotedFrom (steps + 1) text { blanks } ⟨'\\' :: escape :: rest, place⟩ =
      doubleQuotedFrom steps (c :: blanks ++ text) {} ⟨rest, place.after ['\\', escape]⟩ := by
  have hescape : escape? (escape :: rest) = some (.char c 1) := by
    simp [escape?, hbreak, hwidth, h]
  have hdrop := Input.drop_append ['\\', escape] rest place
  simp only [List.cons_append, List.nil_append, List.length_cons, List.length_nil] at hdrop
  rw [doubleQuotedFrom]
  simp [isBlank, isBreak, Input.column, hcolumn, hescape, hdrop, Gap.folded]

theorem doubleQuotedFrom_plain {steps : Nat} {text blanks rest : List Char} {c : Char}
    (hquote : c ≠ '"') (hslash : c ≠ '\\') (hblank : isBlank c = false) (hbreak : isBreak c = false)
    (hcolumn : place.column ≠ 0) :
    doubleQuotedFrom (steps + 1) text { blanks } ⟨c :: rest, place⟩ =
      doubleQuotedFrom steps (c :: blanks ++ text) {} ⟨rest, place.pass c⟩ := by
  rw [doubleQuotedFrom]
  simp [hquote, hslash, hblank, hbreak, Input.column, hcolumn, Input.pass, Gap.folded]

/-- A character below the blank is written by its number. -/
theorem doubleQuotedFrom_numbered {steps : Nat} {text blanks rest : List Char} {c : Char}
    (hlow : c.toNat < 32) (hcolumn : place.column ≠ 0) :
    doubleQuotedFrom (steps + 1) text { blanks } ⟨'\\' :: 'u' :: '0' :: '0' ::
      Nat.digitChar (c.toNat / 16) :: Nat.digitChar (c.toNat % 16) :: rest, place⟩ =
      doubleQuotedFrom steps (c :: blanks ++ text) {} ⟨rest, place.after ['\\', 'u', '0', '0',
        Nat.digitChar (c.toNat / 16), Nat.digitChar (c.toNat % 16)]⟩ := by
  have hnumber := Json.Reader.number?_of_lt hlow
  have hvalid : c.toNat.isValidChar := c.valid
  have hescape : escape? ('u' :: '0' :: '0' :: Nat.digitChar (c.toNat / 16) ::
      Nat.digitChar (c.toNat % 16) :: rest) = some (.char c 5) := by
    simp [escape?, isBreak, escapeWidth?, Hexadecimal.char?, hnumber, hvalid]
  have hdrop := Input.drop_append ['\\', 'u', '0', '0', Nat.digitChar (c.toNat / 16),
    Nat.digitChar (c.toNat % 16)] rest place
  simp only [List.cons_append, List.nil_append, List.length_cons, List.length_nil] at hdrop
  rw [doubleQuotedFrom]
  simp [isBlank, isBreak, Input.column, hcolumn, hescape, hdrop, Gap.folded]

theorem doubleQuotedFrom_blank {steps : Nat} {text blanks rest : List Char} :
    doubleQuotedFrom (steps + 1) text { blanks } ⟨' ' :: rest, place⟩ =
      doubleQuotedFrom steps text { blanks := ' ' :: blanks } ⟨rest, place.pass ' '⟩ :=
  rfl

/-- A character of a JSON string is read as itself, after the blanks before it. -/
theorem doubleQuotedFrom_character {steps : Nat} {text blanks rest : List Char} {c : Char}
    (hc : IsPortable c) (hspace : c ≠ ' ') (hcolumn : place.column ≠ 0) :
    doubleQuotedFrom (steps + 1) text { blanks } ⟨character c ++ rest, place⟩ =
      doubleQuotedFrom steps (c :: blanks ++ text) {} ⟨rest, place.after (character c)⟩ := by
  unfold character
  split
  case h_8 hquote hslash _ _ _ _ htab =>
    split
    · rename_i hlow
      exact doubleQuotedFrom_numbered hlow hcolumn
    · rename_i hlow
      have htab : c ≠ '\t' := htab
      have hblank : isBlank c = false := by simp [isBlank, hspace, htab]
      exact doubleQuotedFrom_plain hquote hslash hblank (isBreak_of_isPortable hc hlow) hcolumn
  all_goals exact doubleQuotedFrom_escaped (by decide) (by decide) rfl hcolumn

theorem isUnbroken_character {c : Char} (hc : IsPortable c) : IsUnbroken (character c) := by
  unfold character
  split
  case h_8 =>
    split
    · simp [IsUnbroken, isBreak]
    · rename_i hlow
      simp [IsUnbroken, isBreak_of_isPortable hc hlow]
  all_goals simp [IsUnbroken, isBreak]

theorem isStream_singleton {c : Char} (hc : IsPortable c) (hlow : ¬ c.toNat < 32) :
    IsStream [c] := by
  have hreturn : c ≠ '\r' := by
    intro h
    rw [h] at hlow
    exact hlow (by decide)
  have hnext : c ≠ '\u0085' := by
    intro h
    rw [h] at hc
    exact absurd hc.1 (by decide)
  have hallowed : isAllowed c = true := by
    have hrange := hc.1
    simp only [isAllowed, Bool.or_eq_true, Bool.and_eq_true, decide_eq_true_eq]
    omega
  exact IsStream.cons ⟨hallowed, hreturn, hnext⟩ (List.forall_mem_nil _)

/-- What is written for a character can stand in a stream. -/
theorem isStream_character {c : Char} (hc : IsPortable c) : IsStream (character c) := by
  unfold character
  split
  case h_8 =>
    split
    · rename_i hlow
      have hdigit : ∀ d < 16, IsStream [Nat.digitChar d] := by decide
      have hescape : IsStream ['\\', 'u', '0', '0'] := by decide
      exact hescape.append ((hdigit (c.toNat / 16) (by omega)).append
        (hdigit (c.toNat % 16) (by omega)))
    · rename_i hlow
      exact isStream_singleton hc hlow
  all_goals decide

theorem character_ne_nil (c : Char) : character c ≠ [] := by
  unfold character
  split
  case h_8 =>
    split
    · exact List.cons_ne_nil _ _
    · exact List.cons_ne_nil _ _
  all_goals exact List.cons_ne_nil _ _

theorem length_le_length_flatMap_character (characters : List Char) :
    characters.length ≤ (characters.flatMap character).length := by
  induction characters with
  | nil => exact Nat.le_refl 0
  | cons c characters ih =>
    have hc := List.length_pos_iff.2 (character_ne_nil c)
    rw [List.flatMap_cons, List.length_append, List.length_cons]
    omega

/-- A JSON string is read as its text, which follows what has been read before. -/
theorem doubleQuotedFrom_append (characters : List Char) (rest : List Char)
    (h : ∀ c ∈ characters, IsPortable c) (steps : Nat) (text blanks : List Char) (place : Place)
    (hcolumn : place.column ≠ 0) (hsteps : characters.length < steps) :
    doubleQuotedFrom steps text { blanks }
        ⟨characters.flatMap character ++ '"' :: rest, place⟩ =
      some ((blanks ++ text).reverse ++ characters,
        ⟨rest, place.after (characters.flatMap character ++ ['"'])⟩) := by
  obtain ⟨steps, rfl⟩ := Nat.exists_eq_add_one_of_ne_zero (Nat.ne_zero_of_lt hsteps)
  induction characters generalizing steps text blanks place with
  | nil =>
    rw [List.flatMap_nil, List.nil_append, doubleQuotedFrom]
    simp [isBlank, isBreak, Input.column, hcolumn, Input.pass, Gap.folded, atDocumentMark]
  | cons c characters ih =>
    have hc := h c List.mem_cons_self
    have hplace : (place.after (character c)).column ≠ 0 := by
      rw [Place.after_of_isUnbroken place (isUnbroken_character hc)]
      exact Nat.ne_of_gt (Nat.add_pos_right _ (List.length_pos_iff.2 (character_ne_nil c)))
    rw [List.length_cons, Nat.add_lt_add_iff_right] at hsteps
    obtain ⟨steps, rfl⟩ := Nat.exists_eq_add_one_of_ne_zero (Nat.ne_zero_of_lt hsteps)
    have hothers := fun text blanks => ih (fun d hd => h d (List.mem_cons_of_mem c hd)) text blanks
      (place.after (character c)) hplace steps hsteps
    rw [List.flatMap_cons, List.append_assoc, List.append_assoc, Place.after_append]
    by_cases hspace : c = ' '
    · rw [hspace] at hothers ⊢
      have hread := hothers text (' ' :: blanks)
      rw [List.cons_append, List.reverse_cons, List.append_assoc] at hread
      exact doubleQuotedFrom_blank.trans hread
    · have hread := hothers (c :: blanks ++ text) []
      rw [List.nil_append, List.cons_append, List.reverse_cons, List.append_assoc] at hread
      rw [doubleQuotedFrom_character hc hspace hcolumn]
      exact hread

/-- A JSON string is read as its text after the opening quote. -/
theorem doubleQuoted_append {text : String} (h : ∀ c ∈ text.toList, IsPortable c)
    (rest : List Char) (hcolumn : place.column ≠ 0) :
    doubleQuoted ⟨text.toList.flatMap character ++ '"' :: rest, place⟩ =
      some (text.toList, ⟨rest, place.after (text.toList.flatMap character ++ ['"'])⟩) := by
  have hlength := length_le_length_flatMap_character text.toList
  apply doubleQuotedFrom_append text.toList rest h _ [] [] place hcolumn
  rw [List.length_append]
  omega

end DoubleQuoted

theorem isBlank_eq_false {c : Char} (hspace : c ≠ ' ') (htab : c ≠ '\t') : isBlank c = false := by
  simp [isBlank, hspace, htab]

theorem isBreak_eq_false {c : Char} (hfeed : c ≠ '\n') (hline : c ≠ '\u2028')
    (hparagraph : c ≠ '\u2029') : isBreak c = false := by
  simp [isBreak, hfeed, hline, hparagraph]

section SingleQuoted

theorem toNat_of_isDigit {c : Char} (hc : c.isDigit = true) : 48 ≤ c.toNat ∧ c.toNat ≤ 57 := by
  simp only [Char.isDigit, Bool.and_eq_true, decide_eq_true_eq] at hc
  exact ⟨UInt32.le_iff_toNat_le.1 hc.1, UInt32.le_iff_toNat_le.1 hc.2⟩

theorem atDocumentMark_cons {c : Char} (hhyphen : c ≠ '-') (hperiod : c ≠ '.') (rest : List Char) :
    atDocumentMark (c :: rest) = false := by
  unfold atDocumentMark
  split
  · rename_i heq
    exact absurd (List.cons.inj heq).1 hhyphen
  · rename_i heq
    exact absurd (List.cons.inj heq).1 hperiod
  · rfl

/-- Digits are read up to the closing quote. -/
theorem singleQuotedFrom_append {digits : List Char} (h : ∀ c ∈ digits, c.isDigit = true)
    {rest : List Char} (hrest : rest.head? ≠ some '\'') (text : List Char) (place : Place) :
    singleQuotedFrom text {} place (digits ++ '\'' :: rest) =
      some (text.reverse ++ digits, ⟨rest, place.after (digits ++ ['\''])⟩) := by
  induction digits generalizing text place with
  | nil =>
    rw [List.nil_append, singleQuotedFrom]
    · simp [isBlank, isBreak, atDocumentMark_cons, Gap.folded]
    · intro more hmore
      rw [hmore] at hrest
      exact hrest rfl
  | cons c digits ih =>
    have hdigit := h c List.mem_cons_self
    have hne {d : Char} (hd : d.isDigit = false) : c ≠ d := Json.Reader.ne_of_isDigit hdigit hd
    have hblank : isBlank c = false := isBlank_eq_false (hne (by decide)) (hne (by decide))
    have hbreak : isBreak c = false :=
      isBreak_eq_false (hne (by decide)) (hne (by decide)) (hne (by decide))
    have hmark := atDocumentMark_cons (hne (by decide) : c ≠ '-') (hne (by decide) : c ≠ '.')
      (digits ++ '\'' :: rest)
    have hquote : c ≠ '\'' := hne (by decide)
    have hothers := ih (fun d hd => h d (List.mem_cons_of_mem c hd)) (c :: text) (place.pass c)
    rw [List.reverse_cons, List.append_assoc] at hothers
    unfold singleQuotedFrom
    simpa [hblank, hbreak, hmark, hquote, Gap.folded] using hothers

end SingleQuoted

section Plain

/-- The characters of the names of slots and of the tags of speech parts. -/
def isWordCharacter (c : Char) : Bool :=
  c = '_' || ('a' ≤ c && c ≤ 'z')

theorem ne_of_isWordCharacter {c d : Char} (hc : isWordCharacter c = true)
    (hd : isWordCharacter d = false) : c ≠ d := by
  intro h
  rw [h, hd] at hc
  contradiction

theorem toNat_of_isWordCharacter {c : Char} (hc : isWordCharacter c = true) :
    c.toNat = 95 ∨ (97 ≤ c.toNat ∧ c.toNat ≤ 122) := by
  simp only [isWordCharacter, Bool.or_eq_true, Bool.and_eq_true, decide_eq_true_eq] at hc
  rcases hc with rfl | ⟨hlow, hhigh⟩
  · exact .inl rfl
  · exact .inr ⟨UInt32.le_iff_toNat_le.1 hlow, UInt32.le_iff_toNat_le.1 hhigh⟩

/-- The characters of a word are read one after another. -/
theorem plainFrom_word {word : List Char} (h : ∀ c ∈ word, isWordCharacter c = true) (indent : Nat)
    (text rest : List Char) (place : Place) :
    plainFrom false indent text {} place (word ++ rest) =
      plainFrom false indent (word.reverse ++ text) {} (place.after word) rest := by
  induction word generalizing text place with
  | nil => rfl
  | cons c word ih =>
    have hword := h c List.mem_cons_self
    have hne {d : Char} (hd : isWordCharacter d = false) : c ≠ d := ne_of_isWordCharacter hword hd
    have hblank : isBlank c = false := isBlank_eq_false (hne (by decide)) (hne (by decide))
    have hbreak : isBreak c = false :=
      isBreak_eq_false (hne (by decide)) (hne (by decide)) (hne (by decide))
    have hcolon : c ≠ ':' := hne (by decide)
    have hothers := ih (fun d hd => h d (List.mem_cons_of_mem c hd)) (c :: text) (place.pass c)
    rw [List.cons_append, plainFrom]
    simp [hblank, hbreak, hcolon, Gap.isEmpty, Gap.isBroken, isStrayColon, endsPlain, Gap.folded,
      hothers]

/-- A word ends before the colon of a key. -/
theorem plainFrom_colon {indent : Nat} {text rest : List Char} {place : Place}
    (hrest : atBlank rest = true) : plainFrom false indent text {} place (':' :: rest) =
      some ⟨text.reverse, false, ⟨':' :: rest, place⟩⟩ := by
  rw [plainFrom]
  simp [isBlank, isBreak, Gap.isEmpty, Gap.isBroken, isStrayColon, endsPlain, hrest]

/-- Blanks at the beginning of a line do not count. -/
theorem plainFrom_blanks {indent : Nat} {text rest : List Char} {gap : Gap} {place : Place}
    (hgap : gap.isBroken = true) {depth : Nat} :
    plainFrom false indent text gap place (List.replicate depth ' ' ++ rest) =
      plainFrom false indent text gap (place.after (List.replicate depth ' ')) rest := by
  induction depth generalizing place with
  | zero => rfl
  | succ depth ih =>
    rw [List.replicate_succ, List.cons_append, plainFrom, Place.after_cons, ← ih]
    simp [isBlank, Gap.addBlank, hgap]

/-- A word ends with its line if the next line is indented less. -/
theorem plainFrom_lineFeed {indent depth : Nat} {text rest : List Char} {place : Place}
    (hdepth : depth < indent) (hrest : IsSolid rest) :
    plainFrom false indent text {} place ('\n' :: (List.replicate depth ' ' ++ rest)) =
      some ⟨text.reverse, true, ⟨rest, place.after ('\n' :: List.replicate depth ' ')⟩⟩ := by
  have hcolumn := place.column_after_lineFeed depth
  have hbreak : plainFrom false indent text {} place ('\n' :: (List.replicate depth ' ' ++ rest)) =
      plainFrom false indent text { breaks := ['\n'] } (place.pass '\n')
        (List.replicate depth ' ' ++ rest) := rfl
  rw [hbreak, plainFrom_blanks rfl, ← Place.after_cons]
  cases rest with
  | nil => rfl
  | cons c rest =>
    obtain ⟨hblank, hbreak, -⟩ := hrest c rfl
    rw [plainFrom, hcolumn]
    simp [hblank, hbreak, Gap.isEmpty, Gap.isBroken, hdepth]

end Plain

end Scalar

end Inflection.Yaml
