import Inflection.Pattern.Basic
import Inflection.Proofs.Pattern.Locality

/-!
Reading a pattern part by part. Each part is read without regard to what
follows a closing parenthesis after it, and so is a run of parts.
-/

namespace Inflection.Pattern

variable {α β : Type}

/-- Two readers between which a condition decides that is the same for all texts that
agree up to a closing parenthesis. -/
theorem Local.cond {p : List Char → Prop} [DecidablePred p]
    {yes no : List Char → Option (α × List Char)}
    (hp : ∀ {front more stop}, Stops stop → (p (front ++ stop) ↔ p (front ++ ')' :: more)))
    (hyes : Local yes) (hno : Local no) : Local fun text => if p text then yes text else no text where
  suffix {text rest x} h := by
    split at h
    · exact hyes.suffix h
    · exact hno.suffix h
  stop {front more rest stop x} hstop h := by
    by_cases hfront : p (front ++ ')' :: more)
    · rw [if_pos hfront] at h
      rw [if_pos ((hp hstop).2 hfront)]
      exact hyes.stop hstop h
    · rw [if_neg hfront] at h
      rw [if_neg fun hs => hfront ((hp hstop).1 hs)]
      exact hno.stop hstop h

theorem Forward.map {read : List Char → Option (α × List Char)} (f : α → β) (h : Forward read) :
    Forward fun text => (read text).map fun x => (f x.1, x.2) where
  toLocal := h.toLocal.map f
  length_lt h' := by
    obtain ⟨⟨a, middle⟩, hread, heq⟩ := Option.map_eq_some_iff.1 h'
    obtain ⟨-, rfl⟩ := Prod.mk.inj heq
    exact h.length_lt hread

/-- What a forward reader reads from a text with a given first character. -/
theorem Forward.of_cons {read : List Char → Option (α × List Char)} (h : Forward read) (c : Char) :
    Local fun text => read (c :: text) where
  suffix {text rest x} hread := by
    rcases List.suffix_cons_iff.1 (h.suffix hread) with rfl | hsuffix
    · exact absurd (h.length_lt hread) (Nat.lt_irrefl _)
    · exact hsuffix
  stop {front more rest stop x} hstop hread := @Local.stop _ _ h.toLocal (c :: front) _ _ _ _ hstop hread

theorem head?_and_head?_tail {text : List α} {c d : α} :
    (text.head? = some c ∧ text.tail.head? = some d) ↔ ∃ rest, text = c :: d :: rest := by
  match text with
  | [] => simp
  | [e] => simp
  | e :: e' :: text => simp

/-- A reader that takes a character and the same again, if they come next. -/
theorem Forward.twice {taken left : List Char → Option (α × List Char)} (c : Char) (hc : c ≠ ')')
    (htaken : Local taken) (hleft : Forward left) :
    Forward fun text =>
      if text.head? = some c ∧ text.tail.head? = some c then taken text.tail.tail else left text := by
  have hsecond := Local.head c hc htaken (hleft.of_cons c)
  have hcons := Forward.cons fun d => Local.ite (p := d = c) hsecond (hleft.of_cons d)
  refine hcons.congr fun text => ?_
  match text with
  | [] =>
    cases hread : left [] with
    | none => simp
    | some x => exact absurd (hleft.length_lt hread) (Nat.not_lt_zero _)
  | d :: text =>
    by_cases hd : d = c <;> by_cases htext : text.head? = some c <;> simp [hd, htext]

namespace CharacterClass

theorem not_mem_of_namedAscii? {name : List Char} {members : CharSet}
    (h : namedAscii? name = some members) : ')' ∉ name ∧ ']' ∉ name := by
  unfold namedAscii? at h
  split at h
  case h_15 => contradiction
  all_goals
    rename_i heq
    rw [← String.toList_ofList (l := name), heq]
    decide

/-- A text up to a colon and a bracket lies before what follows a text, or has all of
that text in it. -/
theorem untilColonBracket_append {front stop : List Char} (hstop : Stops stop) :
    untilColonBracket (front ++ stop) =
        (untilColonBracket front).map (fun x => (x.1, x.2 ++ stop)) ∨
      untilColonBracket front = none ∧
        ∀ x, untilColonBracket (front ++ stop) = some x → ')' ∈ x.1 := by
  induction front with
  | nil =>
    rcases hstop with rfl | ⟨more, rfl⟩
    · exact .inl rfl
    · refine .inr ⟨rfl, fun x h => ?_⟩
      simp only [List.nil_append, untilColonBracket, show ')' ≠ ':' by decide, if_false] at h
      obtain ⟨y, -, rfl⟩ := Option.map_eq_some_iff.1 h
      exact List.mem_cons_self
  | cons c front ih =>
    by_cases hc : c = ':'
    · left
      cases front with
      | nil => rcases hstop with rfl | ⟨more, rfl⟩ <;> simp [untilColonBracket, hc]
      | cons d front =>
        simp only [List.cons_append, untilColonBracket, hc, if_true]
        split <;> simp_all
    · simp only [List.cons_append, untilColonBracket, hc, if_false]
      rcases ih with ih | ⟨hnone, ih⟩
      · left
        simp [ih, Function.comp_def]
      · refine .inr ⟨by simp [hnone], fun x h => ?_⟩
        obtain ⟨y, hy, rfl⟩ := Option.map_eq_some_iff.1 h
        exact List.mem_cons_of_mem c (ih y hy)

theorem asciiSign?_append {front stop : List Char} (hstop : Stops stop) :
    asciiSign? (front ++ stop) = (asciiSign? front).map fun x => (x.1, x.2 ++ stop) := by
  match front with
  | [] => rcases hstop with rfl | ⟨more, rfl⟩ <;> simp [asciiSign?]
  | [c] => rcases hstop with rfl | ⟨more, rfl⟩ <;> by_cases hc : c = ':' <;> simp [asciiSign?, hc]
  | c :: d :: front =>
    by_cases hc : c = ':' <;> by_cases hd : d = '^' <;> simp [asciiSign?, hc, hd]

theorem asciiClass?_append {front stop : List Char} (hstop : Stops stop) :
    asciiClass? (front ++ stop) = (asciiClass? front).map fun x => (x.1, x.2 ++ stop) := by
  unfold asciiClass?
  rw [asciiSign?_append hstop]
  cases asciiSign? front with
  | none => rfl
  | some x =>
    obtain ⟨negated, front⟩ := x
    simp only [Option.map_some, Option.bind_eq_bind, Option.bind_some]
    rcases @untilColonBracket_append front stop hstop with h | ⟨hnone, h⟩
    · rw [h]
      cases untilColonBracket front with
      | none => rfl
      | some x => cases hx : namedAscii? x.1 <;> simp [hx]
    · rw [hnone]
      cases hx : untilColonBracket (front ++ stop) with
      | none => rfl
      | some x =>
        -- no class has a parenthesis in its name
        cases hname : namedAscii? x.1 with
        | none => simp [hname]
        | some members => exact absurd (h x hx) (not_mem_of_namedAscii? hname).1

theorem untilColonBracket_suffix {text : List Char} {x : List Char × List Char}
    (h : untilColonBracket text = some x) : x.2 <:+ text := by
  induction text generalizing x with
  | nil => contradiction
  | cons c text ih =>
    by_cases hc : c = ':'
    · simp only [untilColonBracket, hc, if_true] at h
      split at h
      · cases h
        exact (List.suffix_cons _ _).trans (List.suffix_cons _ _)
      · contradiction
    · simp only [untilColonBracket, hc, if_false] at h
      obtain ⟨y, hy, rfl⟩ := Option.map_eq_some_iff.1 h
      exact (ih hy).trans (List.suffix_cons c text)

theorem asciiSign?_suffix {text : List Char} {x : Bool × List Char} (h : asciiSign? text = some x) :
    x.2 <:+ text := by
  unfold asciiSign? at h
  split at h
  · cases h
    exact (List.suffix_cons _ _).trans (List.suffix_cons _ _)
  · cases h
    exact List.suffix_cons _ _
  · contradiction

theorem local_asciiClass? : Local asciiClass? where
  suffix {text rest x} h := by
    unfold asciiClass? at h
    simp only [Option.bind_eq_bind, Option.bind_eq_some_iff] at h
    obtain ⟨sign, hsign, name, hname, members, -, heq⟩ := h
    obtain ⟨-, rfl⟩ := Prod.mk.inj (Option.some.inj heq)
    exact (untilColonBracket_suffix hname).trans (asciiSign?_suffix hsign)
  stop {front more rest stop x} hstop h := by
    rw [asciiClass?_append (.inr ⟨more, rfl⟩)] at h
    obtain ⟨y, hy, heq⟩ := Option.map_eq_some_iff.1 h
    obtain ⟨rfl, hrest⟩ := Prod.mk.inj heq
    rw [asciiClass?_append hstop, hy, ← List.append_cancel_right hrest]
    rfl

theorem forward_atom (flags : Flags) : Forward (atom flags) := by
  have hcons := Forward.cons fun c => Local.ite (p := c = '\\') (Escape.forward_read flags).toLocal
    (Local.pure (Atom.char c))
  refine hcons.congr fun text => ?_
  unfold atom
  split
  · rfl
  · rfl
  · rename_i c rest hne
    simp [show c ≠ '\\' from hne]

/-- Of the text before a parenthesis, only blanks and one number sign are passed over. -/
theorem peek_append (flags : Flags) {front more stop : List Char} {c : Char} (hc : c ≠ ')')
    (hstop : Stops stop) :
    peek flags (front ++ stop) = some c ↔ peek flags (front ++ ')' :: more) = some c := by
  have hhead : ∀ front : List Char, (front ++ stop).head? = some c ↔
      (front ++ ')' :: more).head? = some c := by
    intro front
    cases front with
    | nil => rcases hstop with rfl | ⟨more, rfl⟩ <;> simp [Ne.symm hc]
    | cons d front => rfl
  have hdrop : ∀ front : List Char, ∃ left, ∀ stop, Stops stop →
      (front ++ stop).dropWhile Unicode.isBlank = left ++ stop := by
    intro front
    induction front with
    | nil =>
      refine ⟨[], fun stop hstop => ?_⟩
      rcases hstop with rfl | ⟨more, rfl⟩ <;> simp [Unicode.isBlank]
    | cons d front ih =>
      by_cases hd : Unicode.isBlank d
      · simpa [List.dropWhile_cons, hd] using ih
      · exact ⟨d :: front, fun stop _ => by simp [hd]⟩
  unfold peek
  split
  · obtain ⟨left, hleft⟩ := hdrop front
    rw [hleft stop hstop, hleft (')' :: more) (.inr ⟨more, rfl⟩)]
    cases left with
    | nil => rcases hstop with rfl | ⟨more, rfl⟩ <;> simp [Ne.symm hc]
    | cons d left =>
      by_cases hd : d = '#'
      · obtain ⟨last, hlast⟩ := hdrop left
        simp only [hd, List.cons_append]
        rw [hlast stop hstop, hlast (')' :: more) (.inr ⟨more, rfl⟩)]
        exact hhead last
      · simp [hd]
  · exact hhead front

theorem local_afterAtom (flags : Flags) (low : Atom) : Local (afterAtom flags low) := by
  have hset : Local fun text => (atomSet? flags low).map (·, text) := by
    cases atomSet? flags low with
    | none => exact Local.none
    | some members => exact Local.pure members
  have hrange := ((forward_atom flags).toLocal.skip flags).bind fun high =>
    Local.of_option (range? flags low high) fun members => Local.pure members
  -- a hyphen that makes no range is left where it is
  have hhyphen := Local.cond (p := fun text => text.head? = some '-' ∧
    (peek flags text.tail = some ']' ∨ peek flags text.tail = some '-')) (fun {front more stop} hstop => by
      cases front with
      | nil => rcases hstop with rfl | ⟨more, rfl⟩ <;> simp
      | cons d front =>
        simp only [List.cons_append, List.head?_cons, List.tail_cons]
        rw [peek_append flags (by decide) hstop, peek_append flags (by decide) hstop])
    hset (Local.head '-' (by decide) hrange hset)
  refine (hhyphen.skip flags).congr fun text => ?_
  unfold afterAtom
  split
  · rename_i rest heq
    simp only [heq, List.head?_cons, List.tail_cons, true_and, if_true]
    rfl
  · rename_i rest hne
    simp only [head?_ne hne, false_and, if_false]

theorem forward_part (flags : Flags) : Forward (part flags) :=
  (forward_atom flags).bind (local_afterAtom flags)

theorem local_openLevel (flags : Flags) : Local fun text => some (openLevel flags text) := by
  have hsign := Local.head '^' (by decide) (Local.pure (Level.opened true))
    (Local.pure (Level.opened false))
  refine (hsign.skip flags).congr fun text => ?_
  unfold openLevel
  split
  · rename_i rest heq
    simp [heq]
  · rename_i rest hne
    rw [if_neg (head?_ne hne)]

theorem forward_element (flags : Flags) (outer : List Level) (level : Level) :
    Forward (element flags outer level) := by
  have hpart := (forward_part flags).map fun members =>
    Progress.within outer (level.add ⟨members, 0⟩)
  have hcombine (operation : Operation) :=
    Local.pure (Progress.within outer (level.combine flags operation))
  refine (((hpart.twice '~' (by decide) (hcombine .symmetricDifference)).twice '-' (by decide)
    (hcombine .difference)).twice '&' (by decide) (hcombine .intersection)).congr fun text => ?_
  unfold element
  split
  · simp
  · simp
  · simp
  · rename_i hand hhyphen htilde
    rw [if_neg fun h => (head?_and_head?_tail.1 h).elim hand,
      if_neg fun h => (head?_and_head?_tail.1 h).elim hhyphen,
      if_neg fun h => (head?_and_head?_tail.1 h).elim htilde]

/-- A class with a name, or the beginning of a class inside another. -/
theorem local_bracket (flags : Flags) (outer : List Level) (level : Level) : Local fun text =>
    match asciiClass? text with
    | some ((members, negated), rest) => (addNamed flags outer level members negated).map (·, rest)
    | none =>
      let (inner, rest) := openLevel flags text
      some (Progress.within (level :: outer) inner, rest) where
  suffix {text rest x} h := by
    split at h
    · rename_i members negated middle heq
      obtain ⟨progress, -, hpair⟩ := Option.map_eq_some_iff.1 h
      obtain ⟨-, rfl⟩ := Prod.mk.inj hpair
      exact local_asciiClass?.suffix heq
    · obtain ⟨-, rfl⟩ := Prod.mk.inj (Option.some.inj h)
      exact (local_openLevel flags).suffix rfl
  stop {front more rest stop x} hstop h := by
    rw [asciiClass?_append (.inr ⟨more, rfl⟩)] at h
    rw [asciiClass?_append hstop]
    cases hclass : asciiClass? front with
    | none =>
      simp only [hclass, Option.map_none] at h ⊢
      exact ((local_openLevel flags).map fun inner => Progress.within (level :: outer) inner).stop
        hstop h
    | some y =>
      simp only [hclass, Option.map_some] at h ⊢
      obtain ⟨progress, hprogress, hpair⟩ := Option.map_eq_some_iff.1 h
      obtain ⟨rfl, hrest⟩ := Prod.mk.inj hpair
      rw [hprogress, List.append_cancel_right hrest]
      rfl

theorem forward_step (flags : Flags) (outer : List Level) (level : Level) :
    Forward (step flags outer level) := by
  have hclose : Local fun text => (close flags outer level).map (·, text) := by
    cases close flags outer level with
    | none => exact Local.none
    | some progress => exact Local.pure progress
  have hcons := Forward.cons fun c => Local.ite (p := c = '[') (local_bracket flags outer level) <|
    Local.ite (p := c = ']') hclose <| Local.ite (p := level.leading && c = '-')
      (Local.pure (Progress.within outer level.addHyphen))
      ((forward_element flags outer level).of_cons c)
  exact (hcons.skip flags).congr fun text => by
    unfold step
    cases flags.skip text <;> rfl

theorem readFrom_suffix {flags : Flags} {n : Nat} {outer : List Level} {level : Level}
    {text rest : List Char} {x : Operand}
    (h : readFrom flags n outer level text = some (x, rest)) : rest <:+ text := by
  induction n generalizing outer level text with
  | zero => contradiction
  | succ n ih =>
    rw [readFrom] at h
    split at h
    · rename_i hstep
      exact (ih h).trans ((forward_step flags _ _).suffix hstep)
    · rename_i hstep
      obtain ⟨rfl, rfl⟩ := Prod.mk.inj (Option.some.inj h)
      exact (forward_step flags _ _).suffix hstep
    · contradiction

/-- A bound on the steps that exceeds the length of the text is as good as any. -/
theorem readFrom_stop {flags : Flags} {n m : Nat} {outer : List Level} {level : Level}
    {front more rest stop : List Char} {x : Operand} (hstop : Stops stop)
    (hm : (front ++ stop).length < m)
    (h : readFrom flags n outer level (front ++ ')' :: more) = some (x, rest ++ ')' :: more)) :
    readFrom flags m outer level (front ++ stop) = some (x, rest ++ stop) := by
  induction n generalizing m outer level front with
  | zero => contradiction
  | succ n ih =>
    obtain ⟨m, rfl⟩ := Nat.exists_eq_add_one_of_ne_zero (Nat.ne_zero_of_lt hm)
    have hforward := forward_step flags outer level
    rw [readFrom] at h ⊢
    split at h
    · rename_i outer' level' middle hstep
      obtain ⟨taken, htaken⟩ := readFrom_suffix h
      rw [← List.append_assoc] at htaken
      subst htaken
      have hstep' := hforward.stop hstop hstep
      have hlt := hforward.length_lt hstep'
      rw [hstep']
      exact ih (by omega) h
    · rename_i hstep
      obtain ⟨rfl, rfl⟩ := Prod.mk.inj (Option.some.inj h)
      rw [hforward.stop hstop hstep]
    · contradiction

theorem local_read (flags : Flags) : Local (CharacterClass.read flags) where
  suffix {text rest x} h :=
    (readFrom_suffix h).trans ((local_openLevel flags).suffix rfl)
  stop {front more rest stop x} hstop h := by
    have hopen := local_openLevel flags
    rw [CharacterClass.read] at h ⊢
    cases hopened : openLevel flags (front ++ ')' :: more) with
    | mk level middle =>
      rw [hopened] at h
      obtain ⟨taken, htaken⟩ := readFrom_suffix h
      rw [← List.append_assoc] at htaken
      subst htaken
      have hopened' := hopen.stop hstop (congrArg some hopened)
      have hle := (hopen.suffix hopened').length_le
      rw [Option.some.inj hopened']
      exact readFrom_stop hstop (Nat.lt_succ_of_le hle) h

end CharacterClass

namespace Reader

theorem forward_namedCapture? (r : Reader) : Forward r.namedCapture? := by
  have hopen (name : List Char) : Local fun rest =>
      if name.isEmpty || r.names.contains name then none
      else some ({ r.openCapture with names := name :: r.names }, rest) :=
    Local.ite Local.none (Local.pure _)
  exact (forward_groupName? true).bind hopen

theorem forward_switch? (r : Reader) : Forward r.switch? :=
  (forward_switches? r.flags true [] false).bind fun switches =>
    Local.of_option (r.applySwitches? switches) Local.pure

theorem local_extension? (r : Reader) : Local r.extension? := by
  have hswitch := r.forward_switch?
  have hname := r.forward_namedCapture?.toLocal
  refine (Local.head '<' (by decide) hname <| Local.head 'P' (by decide)
    (Local.head '<' (by decide) hname (hswitch.of_cons 'P')) hswitch.toLocal).congr fun text => ?_
  unfold extension?
  split
  · rfl
  · rfl
  · rename_i hname hname'
    by_cases hP : text.head? = some 'P'
    · obtain ⟨rest, rfl⟩ := List.head?_eq_some_iff.1 hP
      have hrest : rest.head? ≠ some '<' := head?_ne fun left heq => hname' left (by rw [heq])
      simp [hrest]
    · rw [if_neg (head?_ne hname), if_neg hP]

theorem local_group? (r : Reader) : Local r.group? := by
  refine ((Local.head '?' (by decide) r.local_extension? (Local.pure r.openCapture)).skip
    r.flags).congr fun text => ?_
  unfold group?
  split
  · rename_i heq
    rw [heq]
    rfl
  · rename_i hne
    rw [if_neg (head?_ne hne)]

theorem local_repetition? (r : Reader) (low : Nat) (high : Option Nat) :
    Local (r.repetition? low high) := by
  have hmarked : Local fun text => some (marked text) := by
    refine (Local.head '?' (by decide) (Local.pure true) (Local.pure false)).congr fun text => ?_
    unfold marked
    split
    · rfl
    · rename_i hne
      rw [if_neg (head?_ne hne)]
  exact hmarked.bind fun lazy => Local.of_option (r.repeatLast? low high lazy) Local.pure

theorem local_boundedRepetition? (r : Reader) (inside : List Char) :
    Local (r.boundedRepetition? inside) :=
  Local.of_option (bounds? inside) fun bounds =>
    (r.local_repetition? bounds.1 bounds.2).skip r.flags

theorem local_countedRepetition? (r : Reader) : Local r.countedRepetition? :=
  (forward_untilBrace r.flags false).toLocal.bind r.local_boundedRepetition?

theorem local_border (r : Reader) (inside : List Char) : Local fun rest =>
    match Escape.namedBorder? inside with
    | some border => some (r.pushLook (r.flags.wordBorder border), rest)
    | none => (r.pushLook (r.flags.wordBorder .either)).boundedRepetition? inside rest := by
  cases Escape.namedBorder? inside with
  | some border => exact Local.pure (r.pushLook (r.flags.wordBorder border))
  | none => exact local_boundedRepetition? _ inside

theorem local_bracedBorder? (r : Reader) : Local r.bracedBorder? :=
  (forward_untilBrace r.flags false).toLocal.bind r.local_border

/-- What follows a backslash is read as an atom if it is no border with braces. -/
theorem escape?_eq_map {r : Reader} {text : List Char} (h : ∀ rest, text ≠ 'b' :: '{' :: rest) :
    r.escape? text = (Escape.read r.flags text).map fun x => (r.pushAtom x.1, x.2) := by
  unfold escape?
  split
  · exact absurd rfl (h _)
  · cases Escape.read r.flags text <;> rfl

theorem local_escape? (r : Reader) : Local r.escape? := by
  have hatom := (Escape.forward_read r.flags).map r.pushAtom
  refine (Local.head 'b' (by decide) (Local.head '{' (by decide) r.local_bracedBorder?
    (hatom.of_cons 'b')) hatom.toLocal).congr fun text => ?_
  by_cases hb : text.head? = some 'b'
  · obtain ⟨rest, rfl⟩ := List.head?_eq_some_iff.1 hb
    by_cases hbrace : rest.head? = some '{'
    · obtain ⟨rest, rfl⟩ := List.head?_eq_some_iff.1 hbrace
      rfl
    · rw [escape?_eq_map (by rintro left ⟨rfl⟩; exact hbrace rfl)]
      simp [hbrace]
  · rw [escape?_eq_map (by rintro left rfl; exact hb rfl)]
    simp [hb]

theorem local_step? (r : Reader) (c : Char) : Local (r.step? c) := by
  unfold step?
  split
  case h_1 => exact r.local_group?
  case h_2 =>
    cases r.closeGroup? with
    | none => exact Local.none
    | some r => exact Local.pure r
  case h_4 =>
    exact (CharacterClass.local_read r.flags).bind fun operand =>
      Local.pure (r.pushSet operand.members operand.height)
  case h_5 | h_6 | h_7 => exact r.local_repetition? _ _
  case h_8 => exact r.local_countedRepetition?
  case h_9 => exact r.local_escape?
  case h_10 =>
    cases r.flags.dot? with
    | none => exact Local.none
    | some members => exact Local.pure (r.pushSet members)
  all_goals exact Local.pure _

/-- Reads one part of a text that does not end here. -/
def next? (r : Reader) (text : List Char) : Option (Reader × List Char) :=
  match r.flags.skip text with
  | [] => none
  | c :: rest => r.step? c rest

theorem forward_next? (r : Reader) : Forward r.next? :=
  ((Forward.cons r.local_step?).skip r.flags).congr fun text => by
    unfold next?
    cases r.flags.skip text <;> rfl

theorem next?_eq_none_of_skip {r : Reader} {text : List Char} (h : r.flags.skip text = []) :
    r.next? text = none := by
  rw [next?, h]

/-- A closing parenthesis can only be read inside a group. -/
theorem next?_eq_none_of_close {r : Reader} {text rest : List Char} (houter : r.outer = [])
    (h : r.flags.skip text = ')' :: rest) : r.next? text = none := by
  simp [next?, h, step?, closeGroup?, houter]

/-- Reading some parts of a text leads from one reader to another and to the rest
of the text. -/
inductive Reads : Reader → List Char → Reader → List Char → Prop where
  | refl (r : Reader) (text : List Char) : Reads r text r text
  | step {r r₁ r₂ : Reader} {text rest₁ rest₂ : List Char} (first : r.next? text = some (r₁, rest₁))
      (others : Reads r₁ rest₁ r₂ rest₂) : Reads r text r₂ rest₂

namespace Reads

variable {r r₁ r₂ : Reader} {text rest rest₁ rest₂ front more stop : List Char}

theorem suffix (h : Reads r text r₁ rest) : rest <:+ text := by
  induction h with
  | refl => exact List.suffix_refl _
  | step first others ih => exact ih.trans ((forward_next? _).suffix first)

theorem trans (h : Reads r text r₁ rest₁) (h' : Reads r₁ rest₁ r₂ rest₂) : Reads r text r₂ rest₂ := by
  induction h with
  | refl => exact h'
  | step first others ih => exact .step first (ih h')

/-- What has been read is on the way to where nothing more can be read. -/
theorem of_next?_eq_none (h₁ : Reads r text r₁ rest₁) (h₂ : Reads r text r₂ rest₂)
    (hnone : r₂.next? rest₂ = none) : Reads r₁ rest₁ r₂ rest₂ := by
  induction h₁ with
  | refl => exact h₂
  | step first others ih =>
    cases h₂ with
    | refl => rw [hnone] at first; contradiction
    | step first' others' =>
      obtain ⟨rfl, rfl⟩ := Prod.mk.inj (Option.some.inj (first.symm.trans first'))
      exact ih others'

/-- What is read after the first part. -/
theorem tail (h : Reads r text r₂ rest₂) (first : r.next? text = some (r₁, rest₁))
    (hnone : r₂.next? rest₂ = none) : Reads r₁ rest₁ r₂ rest₂ :=
  of_next?_eq_none (.step first (.refl _ _)) h hnone

theorem eq_of_next?_eq_none (h : Reads r text r₁ rest₁) (hnone : r.next? text = none) :
    r₁ = r ∧ rest₁ = text := by
  cases h with
  | refl => exact ⟨rfl, rfl⟩
  | step first others => rw [hnone] at first; contradiction

/-- What is read up to a closing parenthesis is read there whatever follows. -/
theorem stops (hstop : Stops stop) (h : Reads r (front ++ ')' :: more) r₁ rest)
    (hrest : r₁.flags.skip rest = ')' :: more) :
    ∃ rest', Reads r (front ++ stop) r₁ rest' ∧ r₁.flags.skip rest' = stop := by
  generalize htext : front ++ ')' :: more = text at h
  induction h generalizing front with
  | refl r text =>
    subst htext
    refine ⟨front ++ stop, .refl _ _, ?_⟩
    have hskip := @Local.stop _ _ r.flags.local_skip front more [] stop () hstop (by rw [hrest]; rfl)
    exact (Prod.mk.inj (Option.some.inj hskip)).2
  | @step r r₁ r₂ text rest₁ rest₂ first others ih =>
    subst htext
    have hsuffix : ')' :: more <:+ rest₁ :=
      (hrest ▸ r₂.flags.local_skip.suffix rfl).trans others.suffix
    obtain ⟨front₁, rfl⟩ := hsuffix
    obtain ⟨rest', hreads, hskip⟩ := ih hrest rfl
    exact ⟨rest', .step (r.forward_next?.stop hstop first) hreads, hskip⟩

end Reads

theorem readFrom_eq_some_iff {n : Nat} {r r' : Reader} {text : List Char} (hn : text.length < n) :
    readFrom n r text = some r' ↔ ∃ rest, Reads r text r' rest ∧ r'.flags.skip rest = [] := by
  induction n generalizing r text with
  | zero => omega
  | succ n ih =>
    rw [readFrom]
    cases hskip : r.flags.skip text with
    | nil =>
      have hnext : r.next? text = none := next?_eq_none_of_skip hskip
      constructor
      · rintro ⟨⟩
        exact ⟨text, .refl _ text, hskip⟩
      · rintro ⟨rest, hreads, -⟩
        cases hreads with
        | refl => rfl
        | step first others => rw [hnext] at first; contradiction
    | cons c rest =>
      have hnext : r.next? text = r.step? c rest := by rw [next?, hskip]
      simp only
      constructor
      · intro h
        split at h
        · rename_i r₁ rest₁ hstep
          have hlt := r.forward_next?.length_lt (hnext.trans hstep)
          obtain ⟨left, hreads, hleft⟩ := (ih (by omega)).1 h
          exact ⟨left, .step (hnext.trans hstep) hreads, hleft⟩
        · contradiction
      · rintro ⟨left, hreads, hleft⟩
        cases hreads with
        | refl => rw [hskip] at hleft; contradiction
        | step first others =>
          have hlt := r.forward_next?.length_lt first
          rw [← hnext, first]
          exact (ih (by omega)).2 ⟨left, others, hleft⟩

theorem read?_eq_some_iff {r r' : Reader} {text : List Char} :
    r.read? text = some r' ↔ ∃ rest, Reads r text r' rest ∧ r'.flags.skip rest = [] :=
  readFrom_eq_some_iff (Nat.lt_succ_self _)

theorem of_pattern? {r : Reader} {p : Pattern} (h : r.pattern? = some p) :
    r.isComplete = true ∧ r.piece.node.fits = true ∧ p.node = r.piece.node := by
  unfold pattern? at h
  split at h
  · rename_i hfits
    obtain rfl := Option.some.inj h
    rw [Bool.and_eq_true] at hfits
    exact ⟨hfits.1, hfits.2, rfl⟩
  · contradiction

theorem outer_of_isComplete {r : Reader} (h : r.isComplete = true) : r.outer = [] := by
  rw [isComplete, Bool.and_eq_true] at h
  exact List.isEmpty_iff.1 h.1

end Reader

end Inflection.Pattern
