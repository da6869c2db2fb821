import Inflection.Proofs.Pattern.Reading
import Inflection.Proofs.PropertyNames

/-!
Reading a class up to its first closing bracket, with the switches as they are
at the beginning of a pattern. No part of a class reaches past that bracket: it
stands for itself, ends a class, or ends a part that ends with it.
-/

namespace Inflection.Pattern

section Suffixes

variable {inside more rest name : List Char}

theorem suffix_of_append_eq (h : inside ++ ']' :: more = name ++ rest) (hname : ']' ∉ name) :
    ']' :: more <:+ rest := by
  rcases List.append_eq_append_iff.1 h with ⟨left, rfl, hleft⟩ | ⟨left, rfl, hleft⟩
  · cases left with
    | nil => exact ⟨[], hleft⟩
    | cons c left =>
      obtain ⟨rfl, -⟩ := List.cons.inj hleft
      simp at hname
  · exact ⟨left, hleft.symm⟩

theorem eq_or_eq_append_of_suffix (h : rest <:+ inside ++ ']' :: more) (hmore : more <:+ rest) :
    rest = more ∨ ∃ inside', inside' <:+ inside ∧ rest = inside' ++ ']' :: more := by
  obtain ⟨taken, htaken⟩ := h
  rcases List.append_eq_append_iff.1 htaken with ⟨left, rfl, hleft⟩ | ⟨left, rfl, hleft⟩
  · exact .inr ⟨left, ⟨taken, rfl⟩, hleft⟩
  · cases left with
    | nil => exact .inr ⟨[], List.nil_suffix, hleft.symm⟩
    | cons c left =>
      obtain ⟨-, rfl⟩ := List.cons.inj hleft
      exact .inl ((List.suffix_append left rest).eq_of_length_le hmore.length_le)

theorem suffix_of_cons_suffix {c : Char} (h : c :: more <:+ rest) : more <:+ rest :=
  (List.suffix_cons c more).trans h

end Suffixes

theorem untilBrace_eq_some {text name rest : List Char}
    (h : Flags.untilBrace {} false text = some (name, rest)) : text = name ++ '\x7d' :: rest := by
  induction text generalizing name with
  | nil => contradiction
  | cons c text ih =>
    simp only [Flags.untilBrace, Bool.false_and, Bool.false_eq_true, if_false] at h
    split at h
    · rename_i hc
      obtain ⟨rfl, rfl⟩ := Prod.mk.inj (Option.some.inj h)
      rw [hc]
      rfl
    · obtain ⟨x, hx, heq⟩ := Option.map_eq_some_iff.1 h
      obtain ⟨rfl, rfl⟩ := Prod.mk.inj heq
      rw [ih hx]
      rfl

theorem suffix_of_untilBrace {inside more text name rest : List Char}
    (htext : inside ++ ']' :: more = '\x7b' :: text)
    (h : Flags.untilBrace {} false text = some (name, rest)) (hname : ']' ∉ name) :
    ']' :: more <:+ rest := by
  rw [untilBrace_eq_some h, List.append_cons name, ← List.cons_append] at htext
  exact suffix_of_append_eq htext (by simp [hname])

namespace Escape

variable {inside more rest : List Char}

theorem not_mem_of_char? {digits : List Char} {c : Char} (h : Hexadecimal.char? digits = some c) :
    ']' ∉ digits := by
  obtain ⟨n, hn, -⟩ := Option.bind_eq_some_iff.1 h
  rw [Hexadecimal.number?] at hn
  clear h
  generalize 0 = start at hn
  induction digits generalizing start with
  | nil => exact List.not_mem_nil
  | cons d digits ih =>
    rw [List.foldlM_cons] at hn
    obtain ⟨next, hdigit, hothers⟩ := Option.bind_eq_some_iff.1 hn
    have hd : ']' ≠ d := by
      rintro rfl
      contradiction
    rw [List.mem_cons, not_or]
    exact ⟨hd, ih next hothers⟩

theorem hexDigits_eq_some {count : Nat} {text digits : List Char}
    (h : hexDigits {} count text = some (digits, rest)) : text = digits ++ rest ∧ ']' ∉ digits := by
  induction count generalizing text digits with
  | zero =>
    obtain ⟨rfl, rfl⟩ := Prod.mk.inj (Option.some.inj h)
    exact ⟨rfl, List.not_mem_nil⟩
  | succ count ih =>
    cases text with
    | nil => contradiction
    | cons c text =>
      obtain ⟨digit, hdigit, h⟩ := Option.bind_eq_some_iff.1 h
      obtain ⟨x, hx, heq⟩ := Option.bind_eq_some_iff.1 h
      obtain ⟨rfl, rfl⟩ := Prod.mk.inj (Option.some.inj heq)
      obtain ⟨htext, hmem⟩ := ih hx
      have hc : ']' ≠ c := by
        rintro rfl
        contradiction
      refine ⟨congrArg (c :: ·) htext, ?_⟩
      rw [List.mem_cons, not_or]
      exact ⟨hc, hmem⟩

theorem suffix_of_hexadecimal {count : Nat} {x : Atom}
    (h : hexadecimal {} count (inside ++ ']' :: more) = some (x, rest)) : ']' :: more <:+ rest := by
  unfold hexadecimal at h
  split at h
  · rename_i text heq
    obtain ⟨⟨digits, left⟩, hdigits, h⟩ := Option.bind_eq_some_iff.1 h
    cases hempty : digits.isEmpty
    case true => simp [hempty] at h
    case false =>
      simp only [hempty, Bool.false_eq_true, if_false] at h
      obtain ⟨c, hc, h⟩ := Option.bind_eq_some_iff.1 h
      obtain ⟨-, rfl⟩ := Prod.mk.inj (Option.some.inj h)
      exact suffix_of_untilBrace heq hdigits (not_mem_of_char? hc)
  · obtain ⟨⟨digits, left⟩, hdigits, h⟩ := Option.bind_eq_some_iff.1 h
    obtain ⟨c, -, h⟩ := Option.bind_eq_some_iff.1 h
    have hrest : left = rest := by
      simp only at h
      split at h
      · contradiction
      · exact (Prod.mk.inj (Option.some.inj h)).2
    obtain ⟨htext, hmem⟩ := hexDigits_eq_some hdigits
    exact hrest ▸ suffix_of_append_eq htext hmem

theorem eq_of_splitAtFirst {separator text left right : List Char}
    (h : splitAtFirst separator text = some (left, right)) : text = left ++ separator ++ right := by
  induction text generalizing left with
  | nil => contradiction
  | cons c text ih =>
    rw [splitAtFirst] at h
    split at h
    · rename_i hprefix
      obtain ⟨rfl, rfl⟩ := Prod.mk.inj (Option.some.inj h)
      obtain ⟨others, heq⟩ := List.isPrefixOf_iff_prefix.1 hprefix
      rw [← heq, List.drop_left]
      rfl
    · obtain ⟨x, hx, heq⟩ := Option.map_eq_some_iff.1 h
      obtain ⟨rfl, rfl⟩ := Prod.mk.inj heq
      rw [ih hx]
      rfl

theorem not_mem_of_property? {name : List Char} {x : CharSet × Bool} (h : property? name = some x) :
    ']' ∉ name := by
  have hsplit {separator left right : List Char} {members : CharSet} (hseparator : ']' ∉ separator)
      (heq : splitAtFirst separator name = some (left, right))
      (hvalue : Unicode.Property.ofValue? left right = some members) : ']' ∉ name := by
    obtain ⟨hleft, hright⟩ := Unicode.Property.not_mem_of_ofValue? hvalue
    rw [eq_of_splitAtFirst heq]
    simp [hleft, hright, hseparator]
  unfold property? at h
  split at h
  · rename_i left right heq
    obtain ⟨members, hvalue, -⟩ := Option.map_eq_some_iff.1 h
    exact hsplit (by decide) heq hvalue
  · split at h
    · rename_i left right heq
      obtain ⟨members, hvalue, -⟩ := Option.map_eq_some_iff.1 h
      cases hcolon : splitAtFirst [':'] name with
      | some pair =>
        rw [hcolon] at heq
        obtain rfl := Option.some.inj heq
        exact hsplit (by decide) hcolon hvalue
      | none =>
        rw [hcolon] at heq
        exact hsplit (by decide) heq hvalue
    · obtain ⟨members, hname, -⟩ := Option.map_eq_some_iff.1 h
      exact Unicode.Property.not_mem_of_ofName? hname

theorem suffix_of_propertyClass {negated : Bool} {x : Atom}
    (h : propertyClass {} negated (inside ++ ']' :: more) = some (x, rest)) :
    ']' :: more <:+ rest := by
  obtain ⟨⟨name, left⟩, hname, h⟩ := Option.bind_eq_some_iff.1 h
  obtain ⟨members, hmembers, hatom⟩ := Option.bind_eq_some_iff.1 h
  obtain ⟨-, rfl⟩ := Prod.mk.inj (Option.some.inj hatom)
  obtain ⟨y, hy, -⟩ := Option.bind_eq_some_iff.1 hmembers
  have hmem := not_mem_of_property? hy
  unfold propertyText at hname
  split at hname
  · contradiction
  · rename_i text heq
    exact suffix_of_untilBrace heq hname hmem
  · rename_i c text hc heq
    split at hname
    · contradiction
    · obtain ⟨rfl, rfl⟩ := Prod.mk.inj (Option.some.inj hname)
      exact @suffix_of_append_eq inside more text [c] heq hmem

/-- An escape may take the first closing bracket for itself, and nothing after it. -/
theorem suffix_of_read {x : Atom} (h : read {} (inside ++ ']' :: more) = some (x, rest)) :
    more <:+ rest := by
  cases inside with
  | nil =>
    obtain ⟨-, rfl⟩ := Prod.mk.inj (Option.some.inj h)
    exact List.suffix_refl _
  | cons c inside =>
    have htail : more <:+ inside ++ ']' :: more :=
      (List.suffix_cons ']' more).trans (List.suffix_append _ _)
    have hset {s : Option CharSet}
        (h : s.map (fun s => (Atom.set s, inside ++ ']' :: more)) = some (x, rest)) :
        more <:+ rest := by
      obtain ⟨members, -, heq⟩ := Option.map_eq_some_iff.1 h
      exact (Prod.mk.inj heq).2 ▸ htail
    rw [List.cons_append] at h
    unfold read at h
    dsimp only at h
    split at h
    case h_1 | h_2 | h_3 => exact suffix_of_cons_suffix (suffix_of_hexadecimal h)
    case h_4 | h_5 => exact suffix_of_cons_suffix (suffix_of_propertyClass h)
    case h_9 | h_10 | h_11 => exact hset h
    case h_24 =>
      split at h
      · exact (Prod.mk.inj (Option.some.inj h)).2 ▸ htail
      · contradiction
    all_goals exact (Prod.mk.inj (Option.some.inj h)).2 ▸ htail

theorem metaCharacters_eq : metaCharacters = ['\\', '.', '+', '*', '?', '(', ')', '|', '[', ']',
    '\x7b', '\x7d', '^', '$', '#', '&', '-', '~'] := by
  decide +kernel

theorem read_of_mem_metaCharacters {flags : Flags} {c : Char} (hc : c ∈ metaCharacters)
    (text : List Char) : read flags (c :: text) = some (.char c, text) := by
  simp only [metaCharacters_eq, List.mem_cons, List.not_mem_nil, or_false] at hc
  rcases hc with rfl | rfl | rfl | rfl | rfl | rfl | rfl | rfl | rfl | rfl | rfl | rfl | rfl | rfl |
    rfl | rfl | rfl | rfl <;> rfl

end Escape

namespace CharacterClass

variable {inside more rest : List Char}

theorem suffix_of_atom {x : Atom} (h : atom {} (inside ++ ']' :: more) = some (x, rest)) :
    more <:+ rest := by
  unfold atom at h
  split at h
  · contradiction
  · rename_i text heq
    cases inside with
    | nil => exact absurd (List.cons.inj heq).1 (by decide)
    | cons c inside =>
      obtain ⟨-, rfl⟩ := List.cons.inj heq
      exact Escape.suffix_of_read h
  · rename_i c text _ heq
    obtain ⟨-, rfl⟩ := Prod.mk.inj (Option.some.inj h)
    cases inside with
    | nil => exact (List.cons.inj heq).2 ▸ List.suffix_refl _
    | cons d inside =>
      obtain ⟨-, rfl⟩ := List.cons.inj heq
      exact (List.suffix_cons ']' more).trans (List.suffix_append _ _)

/-- What follows a part that ends with the first closing bracket is left alone. -/
theorem eq_of_afterAtom (hmore : more.head? ≠ some '-') {low : Atom} {x : CharSet}
    (h : afterAtom {} low more = some (x, rest)) : rest = more := by
  unfold afterAtom at h
  split at h
  · rename_i text heq
    have htext : more = '-' :: text := heq
    simp [htext] at hmore
  · obtain ⟨members, -, heq⟩ := Option.map_eq_some_iff.1 h
    exact (Prod.mk.inj heq).2.symm

theorem afterAtom_char {c : Char} (hmore : more.head? ≠ some '-') :
    afterAtom {} (.char c) more = some (CharSet.single c, more) := by
  unfold afterAtom
  split
  · rename_i text heq
    have htext : more = '-' :: text := heq
    simp [htext] at hmore
  · rfl

theorem suffix_of_afterAtom {low : Atom} {x : CharSet}
    (h : afterAtom {} low (inside ++ ']' :: more) = some (x, rest)) : more <:+ rest := by
  have hall : more <:+ inside ++ ']' :: more :=
    (List.suffix_cons ']' more).trans (List.suffix_append _ _)
  unfold afterAtom at h
  split at h
  · rename_i text heq
    have htext : inside ++ ']' :: more = '-' :: text := heq
    split at h
    · obtain ⟨members, -, heq⟩ := Option.map_eq_some_iff.1 h
      rw [← (Prod.mk.inj heq).2, ← htext]
      exact hall
    · obtain ⟨⟨high, left⟩, hatom, h⟩ := Option.bind_eq_some_iff.1 h
      obtain ⟨members, -, heq⟩ := Option.bind_eq_some_iff.1 h
      obtain ⟨-, rfl⟩ := Prod.mk.inj (Option.some.inj heq)
      cases inside with
      | nil => exact absurd (List.cons.inj htext).1 (by decide)
      | cons d inside =>
        obtain ⟨-, rfl⟩ := List.cons.inj htext
        exact suffix_of_atom hatom
  · obtain ⟨members, -, heq⟩ := Option.map_eq_some_iff.1 h
    exact (Prod.mk.inj heq).2 ▸ hall

theorem suffix_of_part (hmore : more.head? ≠ some '-') {x : CharSet}
    (h : part {} (inside ++ ']' :: more) = some (x, rest)) : more <:+ rest := by
  obtain ⟨⟨low, left⟩, hatom, hafter⟩ := Option.bind_eq_some_iff.1 h
  rcases eq_or_eq_append_of_suffix ((forward_atom {}).suffix hatom) (suffix_of_atom hatom) with
    rfl | ⟨inside', -, rfl⟩
  · have hrest := eq_of_afterAtom hmore hafter
    exact hrest ▸ List.suffix_refl _
  · exact suffix_of_afterAtom hafter

theorem eq_of_asciiSign? {text left : List Char} {negated : Bool}
    (h : asciiSign? text = some (negated, left)) : ∃ sign, ']' ∉ sign ∧ text = sign ++ left := by
  unfold asciiSign? at h
  split at h
  · obtain ⟨-, rfl⟩ := Prod.mk.inj (Option.some.inj h)
    exact ⟨[':', '^'], by decide, rfl⟩
  · obtain ⟨-, rfl⟩ := Prod.mk.inj (Option.some.inj h)
    exact ⟨[':'], by decide, rfl⟩
  · contradiction

theorem eq_of_untilColonBracket {text name left : List Char}
    (h : untilColonBracket text = some (name, left)) : text = name ++ ':' :: ']' :: left := by
  induction text generalizing name with
  | nil => contradiction
  | cons c text ih =>
    unfold untilColonBracket at h
    split at h
    · rename_i hc
      split at h
      · obtain ⟨rfl, rfl⟩ := Prod.mk.inj (Option.some.inj h)
        rw [hc]
        rfl
      · contradiction
    · obtain ⟨x, hx, heq⟩ := Option.map_eq_some_iff.1 h
      obtain ⟨rfl, rfl⟩ := Prod.mk.inj heq
      rw [ih hx]
      rfl

/-- A class with a name ends at the first closing bracket. -/
theorem eq_of_asciiClass? (hinside : ']' ∉ inside) {x : CharSet × Bool}
    (h : asciiClass? (inside ++ ']' :: more) = some (x, rest)) : rest = more := by
  obtain ⟨⟨negated, left⟩, hsign, h⟩ := Option.bind_eq_some_iff.1 h
  obtain ⟨⟨name, left'⟩, hname, h⟩ := Option.bind_eq_some_iff.1 h
  obtain ⟨members, hmembers, heq⟩ := Option.bind_eq_some_iff.1 h
  obtain ⟨-, rfl⟩ := Prod.mk.inj (Option.some.inj heq)
  obtain ⟨sign, hsign_mem, htext⟩ := eq_of_asciiSign? hsign
  rw [eq_of_untilColonBracket hname, List.append_cons name, ← List.append_assoc] at htext
  have hsuffix := suffix_of_append_eq htext
    (by simp [hsign_mem, (not_mem_of_namedAscii? hmembers).2])
  exact (List.cons.inj ((suffix_of_append_eq htext.symm hinside).eq_of_length_le
    hsuffix.length_le)).2

theorem suffix_of_element (hmore : more.head? ≠ some '-') {outer : List Level} {level : Level}
    {progress : Progress}
    (h : element {} outer level (inside ++ ']' :: more) = some (progress, rest)) :
    more <:+ rest ∧ ∃ level', progress = .within outer level' := by
  have htwice {c : Char} {text : List Char} (hc : c ≠ ']')
      (heq : inside ++ ']' :: more = c :: c :: text) : more <:+ text :=
    suffix_of_cons_suffix (@suffix_of_append_eq inside more text [c, c] heq (by simp [Ne.symm hc]))
  unfold element at h
  split at h
  case h_4 =>
    obtain ⟨⟨members, left⟩, hpart, heq⟩ := Option.map_eq_some_iff.1 h
    obtain ⟨rfl, rfl⟩ := Prod.mk.inj heq
    exact ⟨suffix_of_part hmore hpart, _, rfl⟩
  all_goals
    rename_i text heq
    obtain ⟨rfl, rfl⟩ := Prod.mk.inj (Option.some.inj h)
    exact ⟨htwice (by decide) heq, _, rfl⟩

theorem exists_within_of_addNamed {flags : Flags} {outer : List Level} {level : Level}
    {members : CharSet} {negated : Bool} {progress : Progress}
    (h : addNamed flags outer level members negated = some progress) :
    ∃ level', progress = .within outer level' := by
  unfold addNamed at h
  cases negated with
  | true =>
    obtain ⟨folded, -, heq⟩ := Option.bind_eq_some_iff.1 h
    exact ⟨_, (Option.some.inj heq).symm⟩
  | false => exact ⟨_, (Option.some.inj h).symm⟩

theorem suffix_of_openLevel : more <:+ (openLevel {} (inside ++ ']' :: more)).2 := by
  unfold openLevel
  split
  · rename_i text heq
    exact suffix_of_cons_suffix (@suffix_of_append_eq inside more text ['^'] heq (by decide))
  · exact (List.suffix_cons ']' more).trans (List.suffix_append _ _)

theorem openLevel_cases (inside more : List Char) :
    (openLevel {} (inside ++ ']' :: more)).2 = more ∨ ∃ inside', inside' <:+ inside ∧
      (openLevel {} (inside ++ ']' :: more)).2 = inside' ++ ']' :: more :=
  eq_or_eq_append_of_suffix ((local_openLevel {}).suffix rfl) suffix_of_openLevel

/-- Only the outermost class is closed for good. -/
theorem outer_of_close {flags : Flags} {outer : List Level} {level : Level} {x : Operand}
    (h : close flags outer level = some (.closed x)) : outer = [] := by
  unfold close at h
  split at h
  · simp at h
  · obtain ⟨operand, -, h⟩ := Option.bind_eq_some_iff.1 h
    cases outer with
    | nil => rfl
    | cons parent outer => simp at h

/-- Before the first closing bracket no class ends. -/
theorem within_of_step (hmore : more.head? ≠ some '-') (hinside : ']' ∉ inside)
    {outer : List Level} {level : Level} {progress : Progress} {c : Char} (hc : c ≠ ']')
    (h : step {} outer level (c :: inside ++ ']' :: more) = some (progress, rest)) :
    more <:+ rest ∧ ∃ outer' level', progress = .within outer' level' ∧ outer <:+ outer' := by
  have hall : more <:+ inside ++ ']' :: more :=
    (List.suffix_cons ']' more).trans (List.suffix_append _ _)
  rw [List.cons_append] at h
  simp only [step, Flags.skip, Bool.false_eq_true, if_false, hc] at h
  split at h
  · split at h
    · rename_i members negated left hclass
      obtain ⟨progress', hnamed, heq⟩ := Option.map_eq_some_iff.1 h
      obtain ⟨rfl, rfl⟩ := Prod.mk.inj heq
      obtain ⟨level', rfl⟩ := exists_within_of_addNamed hnamed
      rw [eq_of_asciiClass? hinside hclass]
      exact ⟨List.suffix_refl _, outer, level', rfl, List.suffix_refl _⟩
    · obtain ⟨rfl, rfl⟩ := Prod.mk.inj (Option.some.inj h)
      exact ⟨suffix_of_openLevel, level :: outer, _, rfl, List.suffix_cons level outer⟩
  · split at h
    · obtain ⟨rfl, rfl⟩ := Prod.mk.inj (Option.some.inj h)
      exact ⟨hall, outer, _, rfl, List.suffix_refl _⟩
    · rw [← List.cons_append] at h
      obtain ⟨hsuffix, level', rfl⟩ := suffix_of_element hmore h
      exact ⟨hsuffix, outer, level', rfl, List.suffix_refl _⟩

/-- A bracket in a class opens another, unless a class with a name follows. -/
theorem within_of_step_bracket (hinside : ']' ∉ inside) {outer : List Level} {level : Level}
    {progress : Progress}
    (h : step {} outer level ('[' :: inside ++ ']' :: more) = some (progress, rest)) :
    ∃ outer' level', progress = .within outer' level' ∧ (rest = more ∨ outer' ≠ [] ∧
      ∃ inside', ']' ∉ inside' ∧ rest = inside' ++ ']' :: more) := by
  rw [List.cons_append] at h
  simp only [step, Flags.skip, Bool.false_eq_true, if_false, if_true] at h
  split at h
  · rename_i members negated left hclass
    obtain ⟨progress', hnamed, heq⟩ := Option.map_eq_some_iff.1 h
    obtain ⟨rfl, rfl⟩ := Prod.mk.inj heq
    obtain ⟨level', rfl⟩ := exists_within_of_addNamed hnamed
    exact ⟨outer, level', rfl, .inl (eq_of_asciiClass? hinside hclass)⟩
  · obtain ⟨rfl, rfl⟩ := Prod.mk.inj (Option.some.inj h)
    refine ⟨level :: outer, _, rfl, ?_⟩
    rcases openLevel_cases inside more with heq | ⟨inside', hinside', heq⟩
    · exact .inl heq
    · exact .inr ⟨by simp, inside', fun hmem => hinside (hinside'.subset hmem), heq⟩

/-- A class ends at its first closing bracket, or is still open after it. -/
theorem ends_or_open_of_readFrom (hmore : more.head? ≠ some '-') {n : Nat} {outer : List Level}
    {level : Level} {x : Operand} (hinside : ']' ∉ inside)
    (h : readFrom {} n outer level (inside ++ ']' :: more) = some (x, rest)) :
    (outer = [] ∧ rest = more) ∨
      ∃ n' outer' level', readFrom {} n' outer' level' more = some (x, rest) := by
  induction n generalizing inside outer level with
  | zero => contradiction
  | succ n ih =>
    rw [readFrom] at h
    cases inside with
    | nil =>
      have hstep : step {} outer level (']' :: more) = (close {} outer level).map (·, more) := rfl
      rw [List.nil_append, hstep] at h
      cases hclose : close {} outer level with
      | none => simp [hclose] at h
      | some progress =>
        cases progress with
        | within outer' level' =>
          simp only [hclose, Option.map_some] at h
          exact .inr ⟨n, outer', level', h⟩
        | closed operand =>
          simp only [hclose, Option.map_some, Option.some.injEq, Prod.mk.injEq] at h
          exact .inl ⟨outer_of_close hclose, h.2.symm⟩
    | cons c inside =>
      rw [List.mem_cons, not_or] at hinside
      split at h
      · rename_i outer' level' left hstep
        obtain ⟨hsuffix, outer'', level'', heq, houter⟩ :=
          within_of_step hmore hinside.2 (Ne.symm hinside.1) hstep
        obtain ⟨rfl, rfl⟩ := Progress.within.inj heq
        rcases eq_or_eq_append_of_suffix ((forward_step {} outer level).suffix hstep) hsuffix with
          rfl | ⟨inside', hinside', rfl⟩
        · exact .inr ⟨n, outer', level', h⟩
        · have hmem : ']' ∉ inside' := fun hmem =>
            (List.mem_cons.1 (hinside'.subset hmem)).elim hinside.1 hinside.2
          rcases ih hmem h with ⟨rfl, rfl⟩ | hopen
          · exact .inl ⟨List.suffix_nil.1 houter, rfl⟩
          · exact .inr hopen
      · rename_i hstep
        obtain ⟨-, _, _, heq, -⟩ :=
          within_of_step hmore hinside.2 (Ne.symm hinside.1) hstep
        contradiction
      · contradiction

/-- A character without a meaning of its own in classes stands for itself there. -/
theorem step_of_plain {outer : List Level} {level : Level} {c : Char}
    (hc : c ∉ ['[', ']', '-', '&', '~', '\\']) (hmore : more.head? ≠ some '-') :
    step {} outer level (c :: more) =
      some (.within outer (level.add ⟨CharSet.single c, 0⟩), more) := by
  simp only [List.mem_cons, List.not_mem_nil, or_false, not_or] at hc
  obtain ⟨hopen, hclose, hhyphen, hand, htilde, hslash⟩ := hc
  have hatom : atom {} (c :: more) = some (.char c, more) := by simp [atom]
  have hpart : part {} (c :: more) = some (CharSet.single c, more) := by
    rw [part, hatom]
    exact afterAtom_char hmore
  simp [step, Flags.skip, element, hopen, hclose, hhyphen, hand, htilde, hpart]

/-- A quoted character stands for itself in classes too. -/
theorem step_of_quoted {outer : List Level} {level : Level} {c : Char}
    (hc : c ∈ Escape.metaCharacters) (hmore : more.head? ≠ some '-') :
    step {} outer level ('\\' :: c :: more) =
      some (.within outer (level.add ⟨CharSet.single c, 0⟩), more) := by
  have hpart : part {} ('\\' :: c :: more) = some (CharSet.single c, more) := by
    rw [part, atom, Escape.read_of_mem_metaCharacters hc]
    exact afterAtom_char hmore
  simp [step, Flags.skip, element, hpart]

/-- Whether a class that is open before a text does not end in it. -/
def Unending (text : List Char) : Prop :=
  ∀ n outer level, readFrom {} n outer level text = none

/-- A class that cannot end after its first closing bracket ends there. -/
theorem Unending.ends_of_readFrom (hunending : Unending more) (hmore : more.head? ≠ some '-')
    {n : Nat} {outer : List Level} {level : Level} {x : Operand} (hinside : ']' ∉ inside)
    (h : readFrom {} n outer level (inside ++ ']' :: more) = some (x, rest)) :
    outer = [] ∧ rest = more := by
  rcases ends_or_open_of_readFrom hmore hinside h with hends | ⟨n', outer', level', hopen⟩
  · exact hends
  · rw [hunending] at hopen
    contradiction

theorem Unending.plain (hunending : Unending more) (hmore : more.head? ≠ some '-') {c : Char}
    (hc : c ∉ ['[', ']', '-', '&', '~', '\\']) : Unending (c :: more) := by
  intro n outer level
  cases n with
  | zero => rfl
  | succ n =>
    rw [readFrom, step_of_plain hc hmore]
    exact hunending n outer _

theorem Unending.quoted (hunending : Unending more) (hmore : more.head? ≠ some '-') {c : Char}
    (hc : c ∈ Escape.metaCharacters) : Unending ('\\' :: c :: more) := by
  intro n outer level
  cases n with
  | zero => rfl
  | succ n =>
    rw [readFrom, step_of_quoted hc hmore]
    exact hunending n outer _

/-- A class inside the one that is open takes at most its own text. -/
theorem Unending.bracketed (hunending : Unending more) (hmore : more.head? ≠ some '-')
    (hinside : ']' ∉ inside) : Unending ('[' :: inside ++ ']' :: more) := by
  intro n outer level
  cases n with
  | zero => rfl
  | succ n =>
    rw [readFrom]
    split
    · rename_i outer' level' rest hstep
      obtain ⟨_, _, heq, hrest⟩ := within_of_step_bracket hinside hstep
      obtain ⟨rfl, rfl⟩ := Progress.within.inj heq
      rcases hrest with rfl | ⟨houter, inside', hinside', rfl⟩
      · exact hunending n _ _
      · cases hread : readFrom {} n outer' level' (inside' ++ ']' :: more) with
        | none => rfl
        | some x => exact absurd (hunending.ends_of_readFrom hmore hinside' hread).1 houter
    · rename_i hstep
      obtain ⟨_, _, heq, -⟩ := within_of_step_bracket hinside hstep
      contradiction
    · rfl

end CharacterClass

end Inflection.Pattern
