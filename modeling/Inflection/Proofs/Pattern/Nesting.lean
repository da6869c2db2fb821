import Inflection.Proofs.Pattern.Reading

/-!
Reading inside a group. A text is read inside an open group just as it is read
by itself, up to the closing parenthesis that the text by itself has no use for.
-/

namespace Inflection.Pattern.Reader

/-- What has been read, with a group open around all of it. -/
def within (r : Reader) (opened : OpenGroup) : Reader :=
  { r with outer := r.outer ++ [opened] }

/-- A group as a part of the pattern around it. -/
def closedPiece (body : Piece) (index : Option Nat) : Piece :=
  match index with
  | some index => { node := .group index body.node, height := body.height + 1 }
  | none => { node := body.node, height := body.height + 1 }

/-- Ends the group around all that has been read. -/
def close (r : Reader) (opened : OpenGroup) : Reader :=
  { r with
    flags := opened.flags
    alternatives := opened.alternatives
    parts := closedPiece r.piece opened.index :: opened.parts
    outer := [] }

@[simp] theorem within_flags (r : Reader) (opened : OpenGroup) :
    (r.within opened).flags = r.flags :=
  rfl

variable {r r' r₂ : Reader} {opened : OpenGroup} {text rest : List Char}

theorem closeGroup?_within_of_ne_nil (h : r.outer ≠ []) :
    (r.within opened).closeGroup? = r.closeGroup?.map (·.within opened) := by
  obtain ⟨innermost, outer, houter⟩ := List.exists_cons_of_ne_nil h
  simp [closeGroup?, within, houter, piece]

theorem closeGroup?_within (h : r.outer = []) :
    (r.within opened).closeGroup? = some (r.close opened) := by
  simp only [closeGroup?, within, close, closedPiece, h, List.nil_append]
  cases opened.index <;> rfl

theorem repeatLast?_within (low : Nat) (high : Option Nat) (lazy : Bool) :
    (r.within opened).repeatLast? low high lazy =
      (r.repeatLast? low high lazy).map (·.within opened) := by
  unfold repeatLast?
  simp only [within]
  cases r.parts with
  | nil => rfl
  | cons last parts => by_cases hlast : last.repeatable <;> simp [hlast]

theorem repetition?_within (low : Nat) (high : Option Nat) :
    (r.within opened).repetition? low high text =
      (r.repetition? low high text).map fun x => (x.1.within opened, x.2) := by
  simp only [repetition?, repeatLast?_within]
  cases r.repeatLast? low high (marked text).1 <;> rfl

theorem boundedRepetition?_within (inside : List Char) :
    (r.within opened).boundedRepetition? inside text =
      (r.boundedRepetition? inside text).map fun x => (x.1.within opened, x.2) := by
  unfold boundedRepetition?
  cases bounds? inside with
  | none => rfl
  | some bounds => exact repetition?_within bounds.1 bounds.2

theorem countedRepetition?_within : (r.within opened).countedRepetition? text =
    (r.countedRepetition? text).map fun x => (x.1.within opened, x.2) := by
  unfold countedRepetition?
  simp only [within_flags]
  cases r.flags.untilBrace false text with
  | none => rfl
  | some x => exact boundedRepetition?_within x.1

theorem bracedBorder?_within : (r.within opened).bracedBorder? text =
    (r.bracedBorder? text).map fun x => (x.1.within opened, x.2) := by
  unfold bracedBorder?
  simp only [within_flags]
  cases r.flags.untilBrace false text with
  | none => rfl
  | some x =>
    cases hborder : Escape.namedBorder? x.1 with
    | none =>
      simp only [Option.bind_eq_bind, Option.bind_some, hborder]
      exact @boundedRepetition?_within (r.pushLook _) opened x.2 x.1
    | some border => simp [hborder, within, pushLook, push]

theorem escape?_within : (r.within opened).escape? text =
    (r.escape? text).map fun x => (x.1.within opened, x.2) := by
  unfold escape?
  split
  · exact bracedBorder?_within
  · simp only [within_flags]
    cases Escape.read r.flags text with
    | none => rfl
    | some x => obtain ⟨atom, rest⟩ := x; cases atom <;> rfl

theorem namedCapture?_within : (r.within opened).namedCapture? text =
    (r.namedCapture? text).map fun x => (x.1.within opened, x.2) := by
  unfold namedCapture?
  cases groupName? true text with
  | none => rfl
  | some x =>
    by_cases hname : x.1 = [] ∨ x.1 ∈ r.names <;>
      simp [hname, within, openCapture, openGroup]

theorem switch?_within : (r.within opened).switch? text =
    (r.switch? text).map fun x => (x.1.within opened, x.2) := by
  unfold switch?
  simp only [within_flags]
  cases switches? r.flags true [] false text with
  | none => rfl
  | some x =>
    unfold applySwitches?
    by_cases hopens : x.1.opensGroup <;> by_cases hempty : x.1.isEmpty <;>
      simp [hopens, hempty, within, openGroup, push]

theorem group?_within : (r.within opened).group? text =
    (r.group? text).map fun x => (x.1.within opened, x.2) := by
  unfold group?
  simp only [within_flags]
  split
  · unfold extension?
    split
    · exact namedCapture?_within
    · exact namedCapture?_within
    · exact switch?_within
  · rfl

/-- One part is read alike inside a group and by itself, unless it ends the group. -/
theorem step?_within {c : Char} (h : c = ')' → r.outer ≠ []) :
    (r.within opened).step? c text = (r.step? c text).map fun x => (x.1.within opened, x.2) := by
  unfold step?
  split
  case h_1 => exact group?_within
  case h_2 =>
    rw [closeGroup?_within_of_ne_nil (h rfl)]
    cases r.closeGroup? <;> rfl
  case h_4 =>
    simp only [within_flags]
    cases CharacterClass.read r.flags text <;> rfl
  case h_5 | h_6 | h_7 => exact repetition?_within _ _
  case h_8 => exact countedRepetition?_within
  case h_9 => exact escape?_within
  case h_10 =>
    simp only [within_flags]
    cases r.flags.dot? <;> rfl
  all_goals rfl

namespace Reads

/-- Parts that are read by themselves are read alike inside a group. -/
theorem within (h : Reads r text r' rest) : Reads (r.within opened) text (r'.within opened) rest := by
  induction h with
  | refl => exact .refl _ _
  | @step r r₁ r₂ text rest₁ rest₂ first others ih =>
    refine .step ?_ ih
    rw [next?, within_flags]
    rw [next?] at first
    cases hskip : r.flags.skip text with
    | nil => rw [hskip] at first; contradiction
    | cons c rest =>
      rw [hskip] at first
      have hclose : c = ')' → r.outer ≠ [] := by
        rintro rfl houter
        simp [step?, closeGroup?, houter] at first
      simp only [step?_within hclose] at first ⊢
      rw [first]
      rfl

/-- Inside a group, parts are read as by themselves up to where the group ends. -/
theorem of_within (h : Reads (r.within opened) text r₂ rest) :
    (∃ r', r₂ = r'.within opened ∧ Reads r text r' rest) ∨
      ∃ r' rest' after, Reads r text r' rest' ∧ r'.outer = [] ∧
        r'.flags.skip rest' = ')' :: after ∧ Reads (r'.close opened) after r₂ rest := by
  generalize hstart : r.within opened = start at h
  induction h generalizing r with
  | refl => exact .inl ⟨r, hstart.symm, .refl _ _⟩
  | @step _ r₁ r₂ text rest₁ rest₂ first others ih =>
    subst hstart
    rw [next?, within_flags] at first
    cases hskip : r.flags.skip text with
    | nil => rw [hskip] at first; contradiction
    | cons c rest =>
      rw [hskip] at first
      by_cases hclose : c = ')' ∧ r.outer = []
      · obtain ⟨rfl, houter⟩ := hclose
        simp only [step?, closeGroup?_within houter, Option.map_some, Option.some.injEq,
          Prod.mk.injEq] at first
        obtain ⟨rfl, rfl⟩ := first
        exact .inr ⟨r, text, rest, .refl _ _, houter, hskip, others⟩
      · simp only [step?_within fun hc houter => hclose ⟨hc, houter⟩] at first
        obtain ⟨⟨r', left⟩, hstep, heq⟩ := Option.map_eq_some_iff.1 first
        obtain ⟨rfl, rfl⟩ := Prod.mk.inj heq
        have hnext : r.next? text = some (r', left) := by rw [next?, hskip]; exact hstep
        rcases ih rfl with ⟨r'', rfl, hreads⟩ | ⟨r'', rest', after, hreads, hrest⟩
        · exact .inl ⟨r'', rfl, .step hnext hreads⟩
        · exact .inr ⟨r'', rest', after, .step hnext hreads, hrest⟩

private theorem exists_left_of_suffix {text more after : List Char} (hmore : ')' ∉ more)
    (h : ')' :: after <:+ text ++ ')' :: more) :
    ∃ front left, text = front ++ left ∧ left ++ ')' :: more = ')' :: after := by
  obtain ⟨front, hfront⟩ := h
  rcases List.append_eq_append_iff.1 hfront with ⟨left, rfl, hleft⟩ | ⟨left, rfl, hleft⟩
  · exact ⟨front, left, rfl, hleft.symm⟩
  · rcases List.suffix_cons_iff.1 ⟨left, hleft.symm⟩ with heq | hsuffix
    · exact ⟨text, [], (List.append_nil text).symm, heq.symm⟩
    · exact absurd (hsuffix.subset List.mem_cons_self) hmore

/-- A group that ends, ends where its text by itself comes to a closing parenthesis or to its
end. -/
theorem of_within_append {more : List Char} (hmore : ')' ∉ more) (houter : r₂.outer = [])
    (h : Reads (r.within opened) (text ++ ')' :: more) r₂ rest) :
    ∃ r' left after, Reads r text r' left ∧ r'.outer = [] ∧
      r'.flags.skip left ++ ')' :: more = ')' :: after ∧ Reads (r'.close opened) after r₂ rest := by
  rcases of_within h with ⟨r', rfl, -⟩ | ⟨r', rest', after, hreads, houter', hskip, hafter⟩
  · simp [Reader.within] at houter
  · have hsuffix : ')' :: after <:+ text ++ ')' :: more :=
      (hskip ▸ r'.flags.local_skip.suffix rfl).trans hreads.suffix
    obtain ⟨front, left, rfl, hleft⟩ := exists_left_of_suffix hmore hsuffix
    have hstop : Stops left := by
      cases left with
      | nil => exact .inl rfl
      | cons c left => exact .inr ⟨left, by rw [(List.cons.inj hleft).1]⟩
    rw [List.append_assoc, hleft] at hreads
    obtain ⟨left', hreads', hskip'⟩ := hreads.stops hstop hskip
    exact ⟨r', left', after, hreads', houter', by rw [hskip', hleft], hafter⟩

/-- A closing parenthesis that a text by itself has no use for ends the group around it. -/
theorem within_append {left after : List Char} (more : List Char) (h : Reads r text r' left)
    (houter : r'.outer = []) (hskip : r'.flags.skip left = ')' :: after) :
    Reads (r.within opened) (text ++ more) (r'.close opened) (after ++ more) := by
  have hsuffix : ')' :: after <:+ text :=
    (hskip ▸ r'.flags.local_skip.suffix rfl).trans h.suffix
  obtain ⟨front, rfl⟩ := hsuffix
  obtain ⟨left', hreads, hskip'⟩ := h.stops (.inr ⟨after ++ more, rfl⟩) hskip
  rw [List.append_assoc, List.cons_append]
  refine hreads.within.trans (.step ?_ (.refl _ _))
  simp only [next?, within_flags, hskip', step?, closeGroup?_within houter, Option.map_some]

end Reads

end Inflection.Pattern.Reader
