import Inflection.Pattern.Reader
import Mathlib.Tactic.SplitIfs

/-!
What a pattern stands for up to a closing parenthesis does not depend on what
follows that parenthesis, nor on whether there is anything at all. Readers of
the parts of a pattern are put together so that this carries over from the
parts to the whole.
-/

namespace Inflection.Pattern

/-- Whether a text is at its end or at a closing parenthesis. -/
def Stops (text : List Char) : Prop :=
  text = [] ∨ ∃ more, text = ')' :: more

variable {α β : Type}

theorem head?_ne {c : α} {text : List α} (h : ∀ rest, text = c :: rest → False) :
    text.head? ≠ some c := by
  intro hhead
  obtain ⟨rest, heq⟩ := List.head?_eq_some_iff.1 hhead
  exact h rest heq

/-- A reader gives what it leaves, and what it reads up to a closing parenthesis it
reads there whatever follows. -/
structure Local (read : List Char → Option (α × List Char)) : Prop where
  suffix : ∀ {text rest x}, read text = some (x, rest) → rest <:+ text
  stop : ∀ {front more rest stop x}, Stops stop →
    read (front ++ ')' :: more) = some (x, rest ++ ')' :: more) →
      read (front ++ stop) = some (x, rest ++ stop)

/-- A local reader that takes at least one character. -/
structure Forward (read : List Char → Option (α × List Char)) : Prop extends Local read where
  length_lt : ∀ {text rest x}, read text = some (x, rest) → rest.length < text.length

namespace Local

variable {read : List Char → Option (α × List Char)}

theorem congr {other : List Char → Option (α × List Char)} (h : Local read)
    (heq : ∀ text, other text = read text) : Local other :=
  funext heq ▸ h

theorem none : Local fun _ => (Option.none : Option (α × List Char)) where
  suffix h := by contradiction
  stop _ h := by contradiction

theorem pure (x : α) : Local fun text => some (x, text) where
  suffix h := by
    obtain ⟨rfl, rfl⟩ := h
    exact List.suffix_refl _
  stop _ h := by
    simp only [Option.some.injEq, Prod.mk.injEq, List.append_cancel_right_eq] at h ⊢
    exact h

theorem ite {p : Prop} [Decidable p] {yes no : List Char → Option (α × List Char)} (hyes : Local yes)
    (hno : Local no) : Local fun text => if p then yes text else no text := by
  by_cases hp : p
  · simpa only [hp, if_true] using hyes
  · simpa only [hp, if_false] using hno

theorem of_option (a : Option β) {next : β → List Char → Option (α × List Char)}
    (h : ∀ x, Local (next x)) : Local fun text => a >>= fun x => next x text := by
  cases a with
  | none => exact none
  | some x => exact h x

/-- What stands before the parenthesis up to which a reader reads. -/
theorem exists_front (h : Local read) {text rest more : List Char} {x : α}
    (hread : read text = some (x, rest ++ ')' :: more)) : ∃ front, text = front ++ ')' :: more := by
  obtain ⟨taken, htaken⟩ := h.suffix hread
  exact ⟨taken ++ rest, by rw [← htaken, List.append_assoc]⟩

theorem bind {next : α → List Char → Option (β × List Char)} (h : Local read)
    (hnext : ∀ a, Local (next a)) : Local fun text => read text >>= fun x => next x.1 x.2 where
  suffix h' := by
    obtain ⟨⟨a, middle⟩, hread, hrest⟩ := Option.bind_eq_some_iff.1 h'
    exact ((hnext a).suffix hrest).trans (h.suffix hread)
  stop hstop h' := by
    obtain ⟨⟨a, middle⟩, hread, hrest⟩ := Option.bind_eq_some_iff.1 h'
    obtain ⟨front, rfl⟩ := (hnext a).exists_front hrest
    exact Option.bind_eq_some_iff.2 ⟨_, h.stop hstop hread, (hnext a).stop hstop hrest⟩

theorem map (f : α → β) (h : Local read) : Local fun text => (read text).map fun x => (f x.1, x.2) where
  suffix h' := by
    obtain ⟨⟨a, middle⟩, hread, heq⟩ := Option.map_eq_some_iff.1 h'
    obtain ⟨-, rfl⟩ := Prod.mk.inj heq
    exact h.suffix hread
  stop hstop h' := by
    obtain ⟨⟨a, middle⟩, hread, heq⟩ := Option.map_eq_some_iff.1 h'
    obtain ⟨rfl, rfl⟩ := Prod.mk.inj heq
    exact Option.map_eq_some_iff.2 ⟨_, h.stop hstop hread, rfl⟩

/-- A reader that looks at the next character, and takes it if it is the given one. -/
theorem head {taken left : List Char → Option (α × List Char)} (c : Char) (hc : c ≠ ')')
    (htaken : Local taken) (hleft : Local left) :
    Local fun text => if text.head? = some c then taken text.tail else left text where
  suffix {text rest x} h := by
    split at h
    · exact (htaken.suffix h).trans (List.tail_suffix text)
    · exact hleft.suffix h
  stop {front more rest stop x} hstop h := by
    cases front with
    | nil =>
      have hne : stop.head? ≠ some c := by
        rcases hstop with rfl | ⟨more, rfl⟩
        · simp
        · simpa using Ne.symm hc
      simp only [List.nil_append, List.head?_cons, Option.some.injEq, Ne.symm hc, if_false, hne]
        at h ⊢
      exact @Local.stop _ _ hleft [] more rest stop x hstop h
    | cons d front =>
      by_cases hd : d = c
      · simp only [List.cons_append, List.head?_cons, hd, if_true, List.tail_cons] at h ⊢
        exact htaken.stop hstop h
      · simp only [List.cons_append, List.head?_cons, Option.some.injEq, hd, if_false] at h ⊢
        exact @Local.stop _ _ hleft (d :: front) more rest stop x hstop h

end Local

namespace Forward

variable {read : List Char → Option (α × List Char)}

theorem congr {other : List Char → Option (α × List Char)} (h : Forward read)
    (heq : ∀ text, other text = read text) : Forward other :=
  funext heq ▸ h

theorem of_tail
    (htail : ∀ {text rest x}, read text = some (x, rest) → ∃ c tail, text = c :: tail ∧ rest <:+ tail)
    (hstop : ∀ {front more rest stop x}, front ≠ [] → Stops stop →
      read (front ++ ')' :: more) = some (x, rest ++ ')' :: more) →
        read (front ++ stop) = some (x, rest ++ stop)) : Forward read := by
  have hlt : ∀ {text rest x}, read text = some (x, rest) → rest.length < text.length := by
    intro text rest x h
    obtain ⟨c, tail, rfl, htail⟩ := htail h
    exact Nat.lt_succ_of_le htail.length_le
  refine ⟨⟨fun h => ?_, fun {front more rest stop x} hs h => ?_⟩, hlt⟩
  · obtain ⟨c, tail, rfl, htail⟩ := htail h
    exact htail.trans (List.suffix_cons c tail)
  · refine hstop ?_ hs h
    rintro rfl
    have := hlt h
    simp only [List.nil_append, List.length_append] at this
    omega

/-- Reads a character and goes on as that character says. -/
theorem cons {next : Char → List Char → Option (α × List Char)} (h : ∀ c, Local (next c)) :
    Forward fun text => match text with
      | [] => Option.none
      | c :: rest => next c rest where
  suffix {text rest x} h' := by
    cases text with
    | nil => contradiction
    | cons c text => exact ((h c).suffix h').trans (List.suffix_cons c text)
  stop {front more rest stop x} hstop h' := by
    cases front with
    | nil =>
      have hle := ((h ')').suffix h').length_le
      simp only [List.length_append, List.length_cons] at hle
      omega
    | cons c front => exact (h c).stop hstop h'
  length_lt {text rest x} h' := by
    cases text with
    | nil => contradiction
    | cons c text => exact Nat.lt_succ_of_le ((h c).suffix h').length_le

theorem bind {next : α → List Char → Option (β × List Char)} (h : Forward read)
    (hnext : ∀ a, Local (next a)) : Forward fun text => read text >>= fun x => next x.1 x.2 where
  toLocal := h.toLocal.bind hnext
  length_lt h' := by
    obtain ⟨⟨a, middle⟩, hread, hrest⟩ := Option.bind_eq_some_iff.1 h'
    exact Nat.lt_of_le_of_lt ((hnext a).suffix hrest).length_le (h.length_lt hread)

theorem of_bind {next : α → List Char → Option (β × List Char)} (h : Local read)
    (hnext : ∀ a, Forward (next a)) : Forward fun text => read text >>= fun x => next x.1 x.2 where
  toLocal := h.bind fun a => (hnext a).toLocal
  length_lt h' := by
    obtain ⟨⟨a, middle⟩, hread, hrest⟩ := Option.bind_eq_some_iff.1 h'
    exact Nat.lt_of_lt_of_le ((hnext a).length_lt hrest) (h.suffix hread).length_le

end Forward

namespace Flags

theorem skipLayout_suffix (inComment : Bool) (text : List Char) :
    skipLayout inComment text <:+ text := by
  fun_induction skipLayout inComment text with
  | case1 => exact List.suffix_refl _
  | case2 c rest ih | case3 c rest _ ih => exact ih.trans (List.suffix_cons c rest)
  | case4 rest _ ih => exact ih.trans (List.suffix_cons '#' rest)
  | case5 => exact List.suffix_refl _

theorem skipLayout_of_stops {stop : List Char} (h : Stops stop) : skipLayout false stop = stop := by
  rcases h with rfl | ⟨more, rfl⟩
  · rfl
  · simp [skipLayout, Unicode.isBlank]

theorem skipLayout_stop {inComment : Bool} {front more rest stop : List Char} (hstop : Stops stop)
    (h : skipLayout inComment (front ++ ')' :: more) = rest ++ ')' :: more) :
    skipLayout inComment (front ++ stop) = rest ++ stop := by
  induction front generalizing inComment with
  | nil =>
    cases inComment with
    | true =>
      -- an open comment takes the parenthesis
      have hle := (skipLayout_suffix (')' != '\n') more).length_le
      rw [List.nil_append, skipLayout] at h
      simp only [h, List.length_append, List.length_cons] at hle
      omega
    | false =>
      rw [List.nil_append, skipLayout_of_stops (.inr ⟨more, rfl⟩)] at h
      obtain rfl := List.self_eq_append_left.1 h
      exact skipLayout_of_stops hstop
  | cons c front ih =>
    cases inComment with
    | true => exact ih h
    | false =>
      rw [List.cons_append, skipLayout] at h ⊢
      by_cases hblank : Unicode.isBlank c
      · rw [if_pos hblank] at h ⊢
        exact ih h
      · rw [if_neg hblank] at h ⊢
        by_cases hsign : c = '#'
        · rw [if_pos hsign] at h ⊢
          exact ih h
        · rw [if_neg hsign] at h ⊢
          rw [← List.cons_append] at h ⊢
          rw [List.append_cancel_right h]

theorem local_skip (flags : Flags) : Local fun text => some ((), flags.skip text) where
  suffix {text rest x} h := by
    obtain ⟨-, rfl⟩ := Prod.mk.inj (Option.some.inj h)
    unfold skip
    split
    · exact skipLayout_suffix false text
    · exact List.suffix_refl _
  stop {front more rest stop x} hstop h := by
    have hskip := (Prod.mk.inj (Option.some.inj h)).2
    congr 2
    unfold skip at hskip ⊢
    by_cases hspaced : flags.spaced
    · rw [if_pos hspaced] at hskip ⊢
      exact skipLayout_stop hstop hskip
    · rw [if_neg hspaced] at hskip ⊢
      rw [List.append_cancel_right hskip]

end Flags

/-- What a reader of single characters does on one of them. -/
inductive Move (σ α : Type) where
  | fail
  /-- Takes the character and is done. -/
  | finish (x : α)
  /-- Takes the character and goes on in another state. -/
  | advance (s : σ) (f : α → α)

/-- A reader that moves by single characters is forward. -/
theorem forward_of_moves {σ : Type} {read : σ → List Char → Option (α × List Char)}
    (move : σ → Char → Move σ α) (hnil : ∀ s, read s [] = none)
    (hcons : ∀ s c rest, read s (c :: rest) = match move s c with
      | .fail => none
      | .finish x => some (x, rest)
      | .advance s f => (read s rest).map fun y => (f y.1, y.2)) (s : σ) : Forward (read s) := by
  have htail : ∀ {s text rest x}, read s text = some (x, rest) →
      ∃ c tail, text = c :: tail ∧ rest <:+ tail := by
    intro s text rest x h
    induction text generalizing s x with
    | nil => simp [hnil] at h
    | cons c tail ih =>
      refine ⟨c, tail, rfl, ?_⟩
      rw [hcons] at h
      split at h
      · contradiction
      · obtain ⟨-, rfl⟩ := Prod.mk.inj (Option.some.inj h)
        exact List.suffix_refl _
      · obtain ⟨⟨y, middle⟩, hread, heq⟩ := Option.map_eq_some_iff.1 h
        obtain ⟨-, rfl⟩ := Prod.mk.inj heq
        obtain ⟨d, tail, rfl, hsuffix⟩ := ih hread
        exact hsuffix.trans (List.suffix_cons d tail)
  refine .of_tail htail fun {front more rest stop x} hne hstop h => ?_
  clear hne
  induction front generalizing s x with
  | nil =>
    obtain ⟨c, tail, heq, hsuffix⟩ := htail h
    obtain ⟨rfl, rfl⟩ := List.cons.inj heq
    have := hsuffix.length_le
    simp only [List.length_append, List.length_cons] at this
    omega
  | cons c front ih =>
    rw [List.cons_append, hcons] at h ⊢
    split at h
    · contradiction
    · simp only [Option.some.injEq, Prod.mk.injEq, List.append_cancel_right_eq] at h ⊢
      exact h
    · obtain ⟨⟨y, middle⟩, hread, heq⟩ := Option.map_eq_some_iff.1 h
      obtain ⟨rfl, rfl⟩ := Prod.mk.inj heq
      exact Option.map_eq_some_iff.2 ⟨(y, rest ++ stop), ih _ hread, rfl⟩

theorem forward_untilBrace (flags : Flags) (inComment : Bool) :
    Forward (flags.untilBrace inComment) := by
  refine forward_of_moves (fun inComment c =>
    if inComment then .advance (c != '\n') id
    else if flags.spaced && Unicode.isBlank c then .advance false id
    else if flags.spaced && c == '#' then .advance true id
    else if c = '\x7d' then .finish []
    else .advance false (c :: ·)) (fun _ => rfl) (fun inComment c rest => ?_) inComment
  rw [Flags.untilBrace]
  split_ifs <;> simp [*]

theorem forward_groupName? (first : Bool) : Forward (Reader.groupName? first) := by
  refine forward_of_moves (fun first c =>
    if c = '>' then .finish []
    else if (if first then c == '_' || Unicode.alphabetic.contains c
      else c == '_' || c == '.' || c == '[' || c == ']' || Unicode.alphanumeric.contains c) then
      .advance false (c :: ·)
    else .fail) (fun _ => by rfl) (fun first c rest => ?_) first
  rw [Reader.groupName?]
  split_ifs <;> simp_all

/-- What the reader of switches does on one character. -/
def switchMove : Flags × Bool × List Char × Bool → Char →
    Move (Flags × Bool × List Char × Bool) Reader.Switches
  | (flags, value, seen, afterHyphen), c =>
    if c = ':' ∨ c = ')' then
      if afterHyphen then .fail else .finish ⟨flags, c == ':', value && seen.isEmpty⟩
    else if c = '-' then
      if value then .advance (flags, false, seen, true) id else .fail
    else if seen.contains c then .fail
    else
      match flags.set? c value with
      | some flags => .advance (flags, value, c :: seen, false) id
      | none => .fail

theorem forward_switches? (flags : Flags) (value : Bool) (seen : List Char) (afterHyphen : Bool) :
    Forward (Reader.switches? flags value seen afterHyphen) := by
  let read (s : Flags × Bool × List Char × Bool) := Reader.switches? s.1 s.2.1 s.2.2.1 s.2.2.2
  refine @forward_of_moves _ _ read switchMove (fun _ => by rfl) (fun s c rest => ?_)
    (flags, value, seen, afterHyphen)
  obtain ⟨flags, value, seen, afterHyphen⟩ := s
  simp only [read, switchMove]
  rw [Reader.switches?]
  split_ifs <;> simp_all
  split <;> simp_all

/-- A reader that skips layout first. -/
theorem Local.skip {read : List Char → Option (α × List Char)} (h : Local read) (flags : Flags) :
    Local fun text => read (flags.skip text) :=
  flags.local_skip.bind fun _ => h

theorem Forward.skip {read : List Char → Option (α × List Char)} (h : Forward read)
    (flags : Flags) : Forward fun text => read (flags.skip text) :=
  .of_bind flags.local_skip fun _ => h

namespace Escape

theorem local_hexDigits (flags : Flags) (count : Nat) : Local (hexDigits flags count) := by
  induction count with
  | zero => exact Local.pure []
  | succ count ih =>
    have hcons := Forward.cons fun c => Local.of_option (Hexadecimal.digit? c) fun _ =>
      (ih.skip flags).bind fun digits => Local.pure (c :: digits)
    exact hcons.toLocal.congr fun text => by cases text <;> rfl

theorem local_hexadecimal (flags : Flags) (count : Nat) : Local (hexadecimal flags count) := by
  have hbraces := (forward_untilBrace flags false).toLocal.bind fun digits =>
    Local.ite (p := digits.isEmpty) Local.none <|
      Local.of_option (Hexadecimal.char? digits) fun c => Local.pure (Atom.char c)
  have hdigits := (local_hexDigits flags count).bind fun digits =>
    Local.of_option (Hexadecimal.char? digits) fun c =>
      Local.ite (p := count = 2 && !flags.unicode && 128 ≤ c.toNat) Local.none
        (Local.pure (Atom.char c))
  refine ((Local.head '{' (by decide) hbraces hdigits).skip flags).congr fun text => ?_
  unfold hexadecimal
  split
  · rename_i rest heq
    rw [heq]
    rfl
  · rename_i rest hne
    rw [if_neg (head?_ne hne)]
    rfl

theorem forward_propertyText (flags : Flags) : Forward (propertyText flags) := by
  have hcons := Forward.cons fun c => Local.ite (p := c = '{')
    (forward_untilBrace flags false).toLocal (Local.ite (p := c = '\\') Local.none (Local.pure [c]))
  refine (hcons.skip flags).congr fun text => ?_
  unfold propertyText
  split
  · rename_i heq
    simp [heq]
  · rename_i heq
    simp [heq]
  · rename_i c rest hne heq
    simp [heq, show c ≠ '{' from hne]

theorem local_propertyClass (flags : Flags) (negated : Bool) :
    Local (propertyClass flags negated) :=
  (forward_propertyText flags).toLocal.bind fun inside =>
    Local.of_option (propertySet? flags negated inside) fun s => Local.pure (Atom.set s)

theorem local_read_cons (flags : Flags) (c : Char) : Local fun text => read flags (c :: text) := by
  have hset : ∀ s : Option CharSet, Local fun text => s.map fun s => (Atom.set s, text) :=
    fun s => by cases s with
      | none => exact Local.none
      | some s => exact Local.pure (Atom.set s)
  unfold read
  dsimp only
  split
  case h_1 | h_2 | h_3 => exact local_hexadecimal flags _
  case h_4 | h_5 => exact local_propertyClass flags _
  case h_9 | h_10 | h_11 => exact hset _
  case h_24 =>
    split
    · exact Local.pure (Atom.char c)
    · exact Local.none
  all_goals exact Local.pure _

theorem forward_read (flags : Flags) : Forward (read flags) :=
  (Forward.cons (local_read_cons flags)).congr fun text => by cases text <;> rfl

end Escape

end Inflection.Pattern
