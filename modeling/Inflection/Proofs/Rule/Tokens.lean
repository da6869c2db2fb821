import Inflection.Proofs.Lines
import Inflection.Rule.Tokens

/-!
How a rule text is written. Every text is made of one declaration and some
further lines in one way, so that the tokens of a text are determined by how it
is written, whether or not anything is wrong with them.
-/

namespace Inflection.Rule.Tokens

theorem lines_ne_nil (text : List Char) : lines text ≠ [] := by
  rw [lines, Ne, List.map_eq_nil_iff]
  exact List.splitOn_ne_nil '\n' text

theorem lines_of_not_mem {line : List Char} (h : '\n' ∉ line) :
    lines line = [Lines.dropFinal '\r' line] := by
  rw [lines, List.splitOn_eq_singleton h]
  rfl

/-- Wherever a text is cut at a line feed, the lines are those before it and those after it. -/
theorem lines_append_feed (before after : List Char) :
    lines (before ++ '\n' :: after) = lines before ++ lines after := by
  rw [lines, List.splitOn_append_cons_self, List.map_append]
  rfl

/-- Whether a comma that a blank follows occurs in a line. -/
def HasSeparator (line : List Char) : Prop := [',', ' '] <:+: line

instance (line : List Char) : Decidable (HasSeparator line) :=
  inferInstanceAs (Decidable ([',', ' '] <:+: line))

theorem hasSeparator_cons {c : Char} {line : List Char} :
    HasSeparator (c :: line) ↔ (c = ',' ∧ line.head? = some ' ') ∨ HasSeparator line := by
  have hfirst : [',', ' '] <+: c :: line ↔ c = ',' ∧ line.head? = some ' ' := by
    rw [List.cons_prefix_cons, List.singleton_prefix_iff_head?_eq_some, eq_comm]
  rw [HasSeparator, List.infix_cons_iff, hfirst]
  rfl

theorem splitDeclaration_cons {c : Char} {line : List Char}
    (h : ¬ (c = ',' ∧ line.head? = some ' ')) :
    splitDeclaration (c :: line) =
      (splitDeclaration line).map fun (ending, condition) => (c :: ending, condition) := by
  rw [splitDeclaration]
  intro rest hc hline
  apply h
  rw [hline]
  exact ⟨hc, rfl⟩

theorem splitDeclaration_append {ending condition : List Char} (h : ¬ HasSeparator ending) :
    splitDeclaration (ending ++ ',' :: ' ' :: condition) = some (ending, condition) := by
  induction ending with
  | nil => rfl
  | cons c ending ih =>
    rw [hasSeparator_cons, not_or] at h
    have hc : ¬ (c = ',' ∧ (ending ++ ',' :: ' ' :: condition).head? = some ' ') := by
      cases ending with
      | nil => simp
      | cons d ending => exact h.1
    rw [List.cons_append, splitDeclaration_cons hc, ih h.2]
    rfl

theorem splitDeclaration_of_not_hasSeparator {line : List Char} (h : ¬ HasSeparator line) :
    splitDeclaration line = none := by
  induction line with
  | nil => rfl
  | cons c line ih =>
    rw [hasSeparator_cons, not_or] at h
    rw [splitDeclaration_cons h.1, ih h.2]
    rfl

/-- A line with a separator is cut at the first. -/
theorem exists_of_hasSeparator {line : List Char} (h : HasSeparator line) :
    ∃ ending condition, line = ending ++ ',' :: ' ' :: condition ∧ ¬ HasSeparator ending := by
  induction line with
  | nil => simp [HasSeparator] at h
  | cons c line ih =>
    by_cases hfirst : c = ',' ∧ line.head? = some ' '
    · obtain ⟨rfl, hhead⟩ := hfirst
      obtain ⟨condition, rfl⟩ := List.head?_eq_some_iff.1 hhead
      exact ⟨[], condition, rfl, by simp [HasSeparator]⟩
    · have hline : HasSeparator line := (hasSeparator_cons.1 h).resolve_left hfirst
      obtain ⟨ending, condition, rfl, hending⟩ := ih hline
      refine ⟨c :: ending, condition, rfl, ?_⟩
      rw [hasSeparator_cons, not_or]
      refine ⟨?_, hending⟩
      intro hc
      apply hfirst
      cases ending with
      | nil => simp at hc
      | cons d ending => exact hc

/-- Whether a line declares the ending and the condition of some tokens. The line is cut where
its first separator stands. -/
def CutFrom (tokens : Tokens) (line : List Char) : Prop :=
  match tokens.precondition with
  | none => line = tokens.ending.toList ∧ ¬ HasSeparator line
  | some condition =>
    line = tokens.ending.toList ++ ',' :: ' ' :: condition.toList ∧ ¬ HasSeparator tokens.ending.toList

theorem cutFrom_ofDeclaration (line : List Char) (entries : List String) :
    (ofDeclaration line entries).CutFrom line := by
  by_cases hline : HasSeparator line
  · obtain ⟨ending, condition, rfl, hending⟩ := exists_of_hasSeparator hline
    rw [ofDeclaration, splitDeclaration_append hending]
    simpa [CutFrom] using hending
  · rw [ofDeclaration, splitDeclaration_of_not_hasSeparator hline]
    simpa [CutFrom] using hline

theorem CutFrom.eq_ofDeclaration {tokens : Tokens} {line : List Char} (h : tokens.CutFrom line) :
    tokens = ofDeclaration line tokens.entries := by
  obtain ⟨ending, precondition, entries⟩ := tokens
  cases precondition with
  | none =>
    obtain ⟨rfl, hline⟩ := h
    rw [ofDeclaration, splitDeclaration_of_not_hasSeparator hline, String.ofList_toList]
  | some condition =>
    obtain ⟨rfl, hending⟩ := h
    have hending : ¬ HasSeparator ending.toList := hending
    simp only [ofDeclaration, splitDeclaration_append hending, String.ofList_toList]

/-- Whether the lines of a text, where one carriage return before the end of a line is no part of
it, are a declaration of the ending and the condition and then the entries, with empty lines and
single hyphens among them. -/
def WrittenIn (tokens : Tokens) (text : String) : Prop :=
  ∃ parts declaration others, Lines.Joins '\n' parts text.toList ∧
    parts.map (Lines.dropFinal '\r') = declaration :: others ∧ tokens.CutFrom declaration ∧
      tokens.entries = (others.map String.ofList).filter fun line => line ≠ "" ∧ line ≠ "-"

theorem entries_eq (others : List (List Char)) :
    ((others.map String.ofList).filter fun line => line ≠ "" ∧ line ≠ "-") =
      (others.filter isEntry).map String.ofList := by
  rw [List.filter_map]
  congr 1
  apply List.filter_congr
  intro line _
  have hempty : String.ofList line = "" ↔ line = [] := String.ofList_eq_empty_iff
  have hhyphen : String.ofList line = "-" ↔ line = ['-'] := by
    rw [← String.toList_inj, String.toList_ofList]
    rfl
  simp only [Function.comp_apply, isEntry, ne_eq, hempty, hhyphen]

theorem writtenIn_iff {tokens : Tokens} {text : String} :
    tokens.WrittenIn text ↔ ∃ declaration others, lines text.toList = declaration :: others ∧
      tokens = ofDeclaration declaration ((others.filter isEntry).map String.ofList) := by
  constructor
  · rintro ⟨parts, declaration, others, hparts, hlines, hdeclared, hentries⟩
    rw [Lines.joins_iff] at hparts
    refine ⟨declaration, others, ?_, ?_⟩
    · rw [lines, ← hparts, hlines]
    · rw [← entries_eq, ← hentries]
      exact hdeclared.eq_ofDeclaration
  · rintro ⟨declaration, others, hlines, rfl⟩
    refine ⟨_, declaration, others, Lines.joins_iff.2 rfl, hlines, cutFrom_ofDeclaration _ _, ?_⟩
    rw [entries_eq, ofDeclaration]
    split <;> rfl

/-- Every text is written with some tokens. -/
theorem exists_writtenIn (text : String) : ∃ tokens : Tokens, tokens.WrittenIn text := by
  obtain ⟨declaration, others, hlines⟩ := List.exists_cons_of_ne_nil (lines_ne_nil text.toList)
  exact ⟨_, writtenIn_iff.2 ⟨declaration, others, hlines, rfl⟩⟩

/-- A text is written with no other tokens. -/
theorem WrittenIn.unique {tokens tokens' : Tokens} {text : String} (h : tokens.WrittenIn text)
    (h' : tokens'.WrittenIn text) : tokens' = tokens := by
  obtain ⟨declaration, others, hlines, rfl⟩ := writtenIn_iff.1 h
  obtain ⟨declaration', others', hlines', rfl⟩ := writtenIn_iff.1 h'
  obtain ⟨rfl, rfl⟩ := List.cons.inj (hlines'.symm.trans hlines)
  rfl

/-- Whether nothing is declared. -/
def IsUndeclared (tokens : Tokens) : Prop := tokens.ending = "" ∧ tokens.precondition = none

instance (tokens : Tokens) : Decidable tokens.IsUndeclared :=
  inferInstanceAs (Decidable (tokens.ending = "" ∧ tokens.precondition = none))

theorem isUndeclared_ofDeclaration {line : List Char} {entries : List String} :
    (ofDeclaration line entries).IsUndeclared ↔ line = [] := by
  have hcut := cutFrom_ofDeclaration line entries
  constructor
  · rintro ⟨hending, hprecondition⟩
    rw [CutFrom, hprecondition, hending] at hcut
    exact hcut.1
  · rintro rfl
    exact ⟨rfl, rfl⟩

/-- The tokens of a text are those that it is written with, unless its declaration is empty. -/
theorem WrittenIn.ofText_eq {tokens : Tokens} {text : String} (h : tokens.WrittenIn text) :
    (tokens.IsUndeclared → ofText text = .error .noDeclaration) ∧
      (¬ tokens.IsUndeclared → ofText text = .ok tokens) := by
  obtain ⟨declaration, others, hlines, rfl⟩ := writtenIn_iff.1 h
  rw [isUndeclared_ofDeclaration, ofText, hlines]
  constructor
  · rintro rfl
    rfl
  · intro hdeclaration
    cases declaration with
    | nil => contradiction
    | cons c declaration => rfl

theorem WrittenIn.eq_of_ofText {tokens tokens' : Tokens} {text : String} (h : tokens.WrittenIn text)
    (htokens' : ofText text = .ok tokens') : tokens' = tokens := by
  by_cases hundeclared : tokens.IsUndeclared
  · rw [h.ofText_eq.1 hundeclared] at htokens'
    contradiction
  · rw [h.ofText_eq.2 hundeclared] at htokens'
    exact (Except.ok.inj htokens').symm

theorem ofText_eq_ok_iff {tokens : Tokens} {text : String} :
    ofText text = .ok tokens ↔ tokens.WrittenIn text ∧ ¬ tokens.IsUndeclared := by
  constructor
  · intro h
    obtain ⟨tokens', hwritten⟩ := exists_writtenIn text
    obtain rfl := hwritten.eq_of_ofText h
    refine ⟨hwritten, ?_⟩
    intro hundeclared
    rw [hwritten.ofText_eq.1 hundeclared] at h
    contradiction
  · intro ⟨hwritten, hdeclared⟩
    exact hwritten.ofText_eq.2 hdeclared

end Inflection.Rule.Tokens
