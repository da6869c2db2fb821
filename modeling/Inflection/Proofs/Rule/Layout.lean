import Mathlib.Data.List.Basic
import Mathlib.Logic.Relation
import Inflection.Rule.Generation
import Inflection.Proofs.Rule.Tokens

/-!
The layout of a rule text. Placeholders after the declaration, a line feed at the
end and carriage returns before the line feeds can be added to a text and taken
from it, whether it is refused or not, and it means the same.
-/

namespace Inflection

namespace Rule

/-- Whether a line is empty or a single hyphen, with or without a carriage return at its end. -/
def IsPlaceholder (line : String) : Prop :=
  line = "" ∨ line = "\r" ∨ line = "-" ∨ line = "-\r"

/-- The text with a carriage return before each line feed. -/
def withReturns (text : List Char) : List Char :=
  text.flatMap fun c => if c = '\n' then ['\r', '\n'] else [c]

/-- Whether a text becomes another by one addition to its layout. -/
inductive Relaid : String → String → Prop where
  /-- Placeholders on lines of their own, anywhere after the first line. -/
  | placeholders (before added after : List String) (hbefore : before ≠ [])
      (hadded : ∀ line ∈ added, IsPlaceholder line) :
      Relaid ("\n".intercalate (before ++ after)) ("\n".intercalate (before ++ added ++ after))
  | finalFeed (text : String) : Relaid text (text ++ "\n")
  /-- Carriage returns, where there are none before line feeds yet. -/
  | returns (text : String) (h : ¬ ['\r', '\n'] <:+: text.toList) :
      Relaid text (String.ofList (withReturns text.toList))

namespace Tokens

/-- The lines of texts that are put one after another on lines of their own. -/
theorem lines_intercalate {texts : List (List Char)} (h : texts ≠ []) :
    lines (['\n'].intercalate texts) = texts.flatMap lines := by
  induction texts with
  | nil => contradiction
  | cons text texts ih =>
    cases texts with
    | nil => simp
    | cons next texts =>
      rw [List.intercalate_cons_cons, List.append_assoc, List.singleton_append, lines_append_feed,
        ih (List.cons_ne_nil next texts)]
      exact List.flatMap_cons.symm

theorem lines_intercalate_append {before : List String} (h : before ≠ []) (others : List String) :
    lines ("\n".intercalate (before ++ others)).toList =
      (before.map String.toList).flatMap lines ++ (others.map String.toList).flatMap lines := by
  rw [String.toList_intercalate, ← List.flatMap_append, ← List.map_append]
  apply lines_intercalate
  simp [h]

/-- Carriage returns before line feeds are no part of the lines. Here `first` is the beginning of a
line, which may end in a carriage return of its own only if no line feed follows. -/
theorem lines_append_withReturns (first rest : List Char) (hfirst : '\n' ∉ first)
    (h : ¬ ['\r', '\n'] <:+: first ++ rest) :
    lines (first ++ withReturns rest) = lines (first ++ rest) := by
  induction rest generalizing first with
  | nil => rfl
  | cons c rest ih =>
    by_cases hc : c = '\n'
    · subst c
      have hlast : first.getLast? ≠ some '\r' := by
        intro hlast
        obtain ⟨kept, rfl⟩ := List.getLast?_eq_some_iff.1 hlast
        exact h ⟨kept, rest, by simp⟩
      have hrest : ¬ ['\r', '\n'] <:+: rest := by
        intro hrest
        exact h (hrest.trans ⟨first ++ ['\n'], [], by simp⟩)
      have hreturn : '\n' ∉ first ++ ['\r'] := by simpa using hfirst
      calc lines (first ++ '\r' :: '\n' :: withReturns rest)
        _ = lines (first ++ ['\r'] ++ '\n' :: withReturns rest) := by
          rw [List.append_assoc, List.singleton_append]
        _ = [first] ++ lines rest := by
          rw [lines_append_feed, lines_of_not_mem hreturn, Lines.dropFinal_append_self]
          exact congrArg _ (ih [] List.not_mem_nil hrest)
        _ = lines (first ++ '\n' :: rest) := by
          rw [lines_append_feed, lines_of_not_mem hfirst, Lines.dropFinal_of_getLast?_ne hlast]
    · have hpassed : '\n' ∉ first ++ [c] := by
        rw [List.mem_append, List.mem_singleton, not_or]
        exact ⟨hfirst, Ne.symm hc⟩
      have hstep := ih (first ++ [c]) hpassed (by simpa using h)
      simpa [withReturns, hc] using hstep

/-- A text to which lines without an entry are added after the first has the same tokens. -/
theorem ofText_eq_of_lines {text text' : String} (before added after : List (List Char))
    (hbefore : before ≠ []) (hadded : added.filter isEntry = [])
    (h : lines text.toList = before ++ after)
    (h' : lines text'.toList = before ++ added ++ after) : ofText text = ofText text' := by
  obtain ⟨declaration, others, rfl⟩ := List.exists_cons_of_ne_nil hbefore
  have hentries : (others ++ added ++ after).filter isEntry = (others ++ after).filter isEntry := by
    rw [List.filter_append, List.filter_append, hadded, List.append_nil, List.filter_append]
  rw [ofText, ofText, h, h']
  cases declaration with
  | nil => rfl
  | cons c declaration =>
    simp only [List.cons_append]
    rw [hentries]

end Tokens

theorem IsPlaceholder.filter_lines {line : String} (h : IsPlaceholder line) :
    (Tokens.lines line.toList).filter Tokens.isEntry = [] := by
  rcases h with rfl | rfl | rfl | rfl <;> decide

/-- An addition to the layout of a text does not change its tokens. -/
theorem Relaid.ofText_eq {text text' : String} (h : Relaid text text') :
    Tokens.ofText text = Tokens.ofText text' := by
  cases h with
  | placeholders before added after hbefore hadded =>
    have hlines := Tokens.lines_intercalate_append hbefore
    apply Tokens.ofText_eq_of_lines _ ((added.map String.toList).flatMap Tokens.lines) _ _ _
      (hlines after)
    · rw [List.append_assoc, hlines, List.map_append, List.flatMap_append, List.append_assoc]
    · obtain ⟨first, others, rfl⟩ := List.exists_cons_of_ne_nil hbefore
      simp [Tokens.lines_ne_nil]
    · rw [List.filter_flatMap, List.flatMap_map, List.flatMap_eq_nil_iff]
      intro line hline
      exact (hadded line hline).filter_lines
  | finalFeed =>
    apply Tokens.ofText_eq_of_lines _ [[]] [] (Tokens.lines_ne_nil text.toList) rfl
    · exact (List.append_nil _).symm
    · rw [String.toList_append, List.append_nil]
      exact Tokens.lines_append_feed text.toList []
  | returns _ h =>
    have hlines : Tokens.lines (withReturns text.toList) = Tokens.lines text.toList :=
      Tokens.lines_append_withReturns [] text.toList List.not_mem_nil h
    rw [Tokens.ofText, Tokens.ofText, String.toList_ofList, hlines]

end Rule

namespace RuleSet

open Rule

/-- Texts that come from each other by additions to the layout and by taking such away mean the same.
They declare the same rule set or are refused for the same fault, and by both a root has the same
forms or the same error. -/
theorem ofText_eq_of_relaid {text text' : String} (h : Relation.EqvGen Relaid text text') :
    ofText text = ofText text' ∧
      ∀ root, Inflection.generate root text = Inflection.generate root text' := by
  have htokens : Tokens.ofText text = Tokens.ofText text' := by
    induction h with
    | rel _ _ hrelaid => exact hrelaid.ofText_eq
    | refl _ => rfl
    | symm _ _ _ ih => exact ih.symm
    | trans _ _ _ _ _ ih ih' => exact ih.trans ih'
  have hrules : ofText text = ofText text' := by
    rw [ofText, ofText, htokens]
  refine ⟨hrules, ?_⟩
  intro root
  rw [Inflection.generate, Inflection.generate, hrules]

/-- A text that is refused for its second entry, and the same entries with placeholders among them,
without the last line feed and with carriage returns. -/
theorem ofText_eq_of_relaid_refused :
    ofText "е[ц]\nе?\n??\n" = ofText "е[ц]\r\n-\r\nе?\r\n\r\n??" ∧
    Inflection.generate "отец" "е[ц]\r\n-\r\nе?\r\n\r\n??" =
      .error (.rule "replacement 1 uses 2 back-references but pattern 'е[ц]' captures 1") := by
  have hfeed : Relaid "е[ц]\nе?\n??" "е[ц]\nе?\n??\n" := by
    simpa using Relaid.finalFeed "е[ц]\nе?\n??"
  have hhyphen : Relaid "е[ц]\nе?\n??" "е[ц]\n-\nе?\n??" := by
    simpa [IsPlaceholder] using Relaid.placeholders ["е[ц]"] ["-"] ["е?", "??"]
  have hempty : Relaid "е[ц]\n-\nе?\n??" "е[ц]\n-\nе?\n\n??" := by
    simpa [IsPlaceholder] using Relaid.placeholders ["е[ц]", "-", "е?"] [""] ["??"]
  have htext : String.ofList (withReturns "е[ц]\n-\nе?\n\n??".toList) =
      "е[ц]\r\n-\r\nе?\r\n\r\n??" := by
    decide +kernel
  have hreturns := Relaid.returns "е[ц]\n-\nе?\n\n??" (by decide +kernel)
  rw [htext] at hreturns
  have hrelaid : Relation.EqvGen Relaid "е[ц]\nе?\n??\n" "е[ц]\r\n-\r\nе?\r\n\r\n??" :=
    .trans _ _ _ (.symm _ _ (.rel _ _ hfeed)) (.trans _ _ _ (.rel _ _ hhyphen)
      (.trans _ _ _ (.rel _ _ hempty) (.rel _ _ hreturns)))
  obtain ⟨hrules, hforms⟩ := ofText_eq_of_relaid hrelaid
  refine ⟨hrules, (hforms "отец").symm.trans ?_⟩
  decide +kernel

end RuleSet

end Inflection
