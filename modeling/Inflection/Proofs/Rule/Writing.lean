import Mathlib.Tactic.MkIffOfInductiveProp
import Inflection.Proofs.Rule.Tokens

/-!
Writing a rule text. Tokens are written one after another, each on a line of its
own and the declaration first. What is written is read back just if the tokens
are well-formed, and no text has other tokens.
-/

namespace Inflection.Rule.Tokens

variable {tokens : Tokens}

/-- Whether tokens can stand in a rule text: each on one line, an ending that is not cut, something
declared, and no entry that would pass for a placeholder. -/
@[mk_iff] structure IsWellFormed (tokens : Tokens) : Prop where
  declared : ¬ tokens.IsUndeclared
  ending : '\n' ∉ tokens.ending.toList ∧ ¬ HasSeparator tokens.ending.toList
  precondition : ∀ condition ∈ tokens.precondition, '\n' ∉ condition.toList
  entries : ∀ entry ∈ tokens.entries, '\n' ∉ entry.toList ∧ entry ≠ "" ∧ entry ≠ "-"

instance : Decidable tokens.IsWellFormed := decidable_of_iff' _ (isWellFormed_iff tokens)

/-- The line that declares the ending and the condition. -/
def declaration (tokens : Tokens) : String :=
  match tokens.precondition with
  | none => tokens.ending
  | some condition => tokens.ending ++ ", " ++ condition

def writtenLines (tokens : Tokens) : List String := tokens.declaration :: tokens.entries

/-- The text of tokens with the given end after each line. -/
def write (lineEnd : String) (tokens : Tokens) : String :=
  String.join (tokens.writtenLines.map (· ++ lineEnd))

theorem cutFrom_iff {line : List Char} :
    tokens.CutFrom line ↔
      line = tokens.declaration.toList ∧ ¬ HasSeparator tokens.ending.toList := by
  obtain ⟨ending, precondition, entries⟩ := tokens
  cases precondition with
  | none =>
    apply and_congr_right
    intro hline
    rw [hline]
  | some condition => simp [CutFrom, declaration]

theorem not_mem_declaration_iff : '\n' ∉ tokens.declaration.toList ↔
    '\n' ∉ tokens.ending.toList ∧ ∀ condition ∈ tokens.precondition, '\n' ∉ condition.toList := by
  obtain ⟨ending, precondition, entries⟩ := tokens
  cases precondition with
  | none => simp [declaration]
  | some condition => simp [declaration]

/-- The tokens of a text are well-formed. -/
theorem isWellFormed_of_ofText {text : String} (h : ofText text = .ok tokens) :
    tokens.IsWellFormed := by
  obtain ⟨hwritten, hdeclared⟩ := ofText_eq_ok_iff.1 h
  obtain ⟨parts, declaration, others, hparts, hlines, hcut, hentries⟩ := hwritten
  have hwithin : ∀ line ∈ declaration :: others, '\n' ∉ line := by
    rw [← hlines]
    intro line hline hmem
    obtain ⟨part, hpart, rfl⟩ := List.mem_map.1 hline
    exact hparts.2.2 part hpart (Lines.mem_of_mem_dropFinal hmem)
  obtain ⟨rfl, hending⟩ := cutFrom_iff.1 hcut
  obtain ⟨hendingLine, hcondition⟩ := not_mem_declaration_iff.1 (hwithin _ List.mem_cons_self)
  refine ⟨hdeclared, ⟨hendingLine, hending⟩, hcondition, ?_⟩
  intro entry hentry
  rw [hentries, List.mem_filter] at hentry
  obtain ⟨hmem, hne⟩ := hentry
  obtain ⟨line, hline, rfl⟩ := List.mem_map.1 hmem
  refine ⟨?_, of_decide_eq_true hne⟩
  rw [String.toList_ofList]
  exact hwithin line (List.mem_cons_of_mem _ hline)

theorem IsWellFormed.not_mem_of_mem (h : tokens.IsWellFormed) :
    ∀ line ∈ tokens.writtenLines, '\n' ∉ line.toList := by
  intro line hline
  rcases List.mem_cons.1 hline with rfl | hentry
  · exact not_mem_declaration_iff.2 ⟨h.ending.1, h.precondition⟩
  · exact (h.entries line hentry).1

/-- Lines that are each ended are read as they are but for a carriage return before the end. After
the last end there is one more line, which is empty. -/
theorem lines_join (mark : String) (hmark : '\n' ∉ mark.toList) {written : List String}
    (h : ∀ line ∈ written, '\n' ∉ line.toList) :
    lines (String.join (written.map (· ++ (mark ++ "\n")))).toList =
      written.map (fun line => Lines.dropFinal '\r' (line.toList ++ mark.toList)) ++ [[]] := by
  induction written with
  | nil => rfl
  | cons line written ih =>
    have hline : '\n' ∉ line.toList ++ mark.toList := by
      rw [List.mem_append, not_or]
      exact ⟨h line List.mem_cons_self, hmark⟩
    have hfirst : (String.join ((line :: written).map (· ++ (mark ++ "\n")))).toList =
        (line.toList ++ mark.toList) ++ '\n' ::
          (String.join (written.map (· ++ (mark ++ "\n")))).toList := by
      simp
    rw [hfirst, lines_append_feed, lines_of_not_mem hline,
      ih fun other hother => h other (List.mem_cons_of_mem line hother)]
    rfl

/-- No entry of well-formed tokens is taken for a placeholder, but the empty line at the end is. -/
theorem IsWellFormed.entries_eq_filter (h : tokens.IsWellFormed) :
    tokens.entries = ((tokens.entries.map String.toList ++ [[]]).map String.ofList).filter
      fun line => line ≠ "" ∧ line ≠ "-" := by
  have hlines : (tokens.entries.map String.toList ++ [[]]).map String.ofList =
      tokens.entries ++ [""] := by
    simp [Function.comp_def]
  have hkept : (tokens.entries.filter fun line => line ≠ "" ∧ line ≠ "-") = tokens.entries := by
    rw [List.filter_eq_self]
    intro entry hentry
    exact decide_eq_true (h.entries entry hentry).2
  rw [hlines, List.filter_append, hkept]
  exact (List.append_nil _).symm

/-- Well-formed tokens are read back if what ends the lines is taken from them and nothing else. -/
theorem IsWellFormed.ofText_write (h : tokens.IsWellFormed) (mark : String)
    (hmark : '\n' ∉ mark.toList)
    (hends : ∀ line ∈ tokens.writtenLines,
      Lines.dropFinal '\r' (line.toList ++ mark.toList) = line.toList) :
    ofText (tokens.write (mark ++ "\n")) = .ok tokens := by
  have hlines : lines (tokens.write (mark ++ "\n")).toList =
      tokens.declaration.toList :: (tokens.entries.map String.toList ++ [[]]) := by
    rw [write, lines_join mark hmark h.not_mem_of_mem, List.map_congr_left hends]
    rfl
  have hwritten : tokens.WrittenIn (tokens.write (mark ++ "\n")) :=
    ⟨_, _, _, Lines.joins_iff.2 rfl, hlines, cutFrom_iff.2 ⟨rfl, h.ending.2⟩, h.entries_eq_filter⟩
  exact ofText_eq_ok_iff.2 ⟨hwritten, h.declared⟩

/-- If a list is as before after a change to its members and the loss of some, there was neither. -/
theorem eq_self_of_filter_map_eq {α : Type} {f : α → α} {p : α → Bool} {list : List α}
    (h : list = (list.map f).filter p) : ∀ a ∈ list, f a = a := by
  have hsublist : ((list.map f).filter p).Sublist (list.map f) := List.filter_sublist
  rw [← h] at hsublist
  have hmap : list = list.map f := hsublist.eq_of_length (List.length_map f).symm
  intro a ha
  exact (List.map_inj_left.1 ((List.map_id list).trans hmap) a ha).symm

/-- A carriage return at the end of a line is lost if a line feed alone ends the lines. -/
theorem getLast?_ne_of_ofText_write (h : ofText (tokens.write "\n") = .ok tokens) :
    ∀ line ∈ tokens.writtenLines, line.toList.getLast? ≠ some '\r' := by
  have hread : lines (tokens.write "\n").toList =
      tokens.writtenLines.map (fun line => Lines.dropFinal '\r' line.toList) ++ [[]] := by
    have hjoin := lines_join "" (by decide) (isWellFormed_of_ofText h).not_mem_of_mem
    simpa [write] using hjoin
  obtain ⟨hwritten, -⟩ := ofText_eq_ok_iff.1 h
  obtain ⟨parts, declaration, others, hparts, hlines, hcut, hentries⟩ := hwritten
  rw [Lines.joins_iff.1 hparts] at hlines
  obtain ⟨hdeclaration, hothers⟩ := List.cons.inj (hlines.symm.trans hread)
  have hkept : tokens.entries = (tokens.entries.map fun entry =>
      String.ofList (Lines.dropFinal '\r' entry.toList)).filter
        fun line => line ≠ "" ∧ line ≠ "-" := by
    simpa [hothers, Function.comp_def] using hentries
  intro line hline
  rw [← Lines.dropFinal_eq_self_iff]
  rcases List.mem_cons.1 hline with rfl | hentry
  · exact hdeclaration.symm.trans (cutFrom_iff.1 hcut).1
  · rw [← String.toList_ofList (l := Lines.dropFinal '\r' line.toList),
      eq_self_of_filter_map_eq hkept line hentry]

/-- What can be written and read back. The tokens of texts are the well-formed ones, and these are
read back when each line is ended by a carriage return and a line feed. A line feed alone will do
just if no line ends in a carriage return of its own. -/
theorem ofText_write_iff (tokens : Tokens) :
    ((∃ text, ofText text = .ok tokens) ↔ tokens.IsWellFormed) ∧
    (ofText (tokens.write "\r\n") = .ok tokens ↔ tokens.IsWellFormed) ∧
    (ofText (tokens.write "\n") = .ok tokens ↔ tokens.IsWellFormed ∧
      ∀ line ∈ tokens.writtenLines, line.toList.getLast? ≠ some '\r') := by
  have hreturn (h : tokens.IsWellFormed) : ofText (tokens.write "\r\n") = .ok tokens := by
    apply h.ofText_write "\r" (by decide)
    intro line _
    exact Lines.dropFinal_append_self '\r' line.toList
  have hfeed (h : tokens.IsWellFormed)
      (hlast : ∀ line ∈ tokens.writtenLines, line.toList.getLast? ≠ some '\r') :
      ofText (tokens.write "\n") = .ok tokens := by
    apply h.ofText_write "" (by decide)
    intro line hline
    exact (congrArg _ (List.append_nil _)).trans (Lines.dropFinal_of_getLast?_ne (hlast line hline))
  refine ⟨⟨?_, fun h => ⟨_, hreturn h⟩⟩, ⟨isWellFormed_of_ofText, hreturn⟩, ?_, ?_⟩
  · intro ⟨text, htext⟩
    exact isWellFormed_of_ofText htext
  · intro h
    exact ⟨isWellFormed_of_ofText h, getLast?_ne_of_ofText_write h⟩
  · intro ⟨hwell, hlast⟩
    exact hfeed hwell hlast

/-- An ending with a comma at its end, a condition that begins with a blank and has a separator, and
entries that end in carriage returns. -/
theorem ofText_write_iff_returns :
    ofText "а,,  б, в\r\n-\r\r\n\r\r\nата\r\n" =
      .ok ⟨"а,", some " б, в", ["-\r", "\r", "ата"]⟩ ∧
    ofText "а,,  б, в\n-\r\n\r\nата\n" ≠ .ok ⟨"а,", some " б, в", ["-\r", "\r", "ата"]⟩ := by
  obtain ⟨-, hreturn, hfeed⟩ := ofText_write_iff ⟨"а,", some " б, в", ["-\r", "\r", "ата"]⟩
  constructor
  · exact hreturn.2 (by decide)
  · intro h
    have hlast := (hfeed.1 h).2 "-\r" (by decide)
    contradiction

end Inflection.Rule.Tokens
