import Mathlib.Data.List.Forall2
import Inflection.Lexicon.Dump
import Inflection.Proofs.Lexicon.Store
import Inflection.Proofs.Lines
import Inflection.Proofs.Utf8

/-!
What is loaded from a dump. Each line is read by itself, and the lexicon holds
what the lines add in their order. The first line that cannot be read decides
the error, whatever follows it.
-/

namespace Inflection.Lexicon

namespace Dump

/-- Whether a dump is cut into the given lines. A line feed ends each line but the last, and one
carriage return before it is no part of the line. -/
def CutInto (bytes : List UInt8) (lines : List (List UInt8)) : Prop :=
  ∃ ended last, Lines.Joins 0x0A (ended ++ [last]) bytes ∧
    lines = ended.map (Lines.dropFinal 0x0D) ++ [last]

/-- What a line of a dump adds, which is nothing if it has only blanks. -/
inductive Reads (bytes : List UInt8) : Option Line → Prop where
  | blank {text : String} (htext : text.toByteArray = bytes.toByteArray)
      (hblank : ∀ c ∈ text.toList, Unicode.isBlank c = true) : Reads bytes none
  | line {text : String} {line : Line} (htext : text.toByteArray = bytes.toByteArray)
      (hblank : ∃ c ∈ text.toList, Unicode.isBlank c = false)
      (hline : Line.ofText? text.toList = some line) : Reads bytes (some line)

/-- What is wrong with the line of a dump that has the given number. -/
inductive Refuses (number : Nat) (bytes : List UInt8) : Error → Prop where
  | notText (h : ¬ bytes.toByteArray.IsValidUTF8) :
      Refuses number bytes (.io "stream did not contain valid UTF-8")
  | notLine {text : String} (htext : text.toByteArray = bytes.toByteArray)
      (hblank : ∃ c ∈ text.toList, Unicode.isBlank c = false)
      (hline : Line.ofText? text.toList = none) :
      Refuses number bytes (.serialization ("invalid lexicon line " ++ toString number))

theorem cutInto_iff {bytes : List UInt8} {cut : List (List UInt8)} :
    CutInto bytes cut ↔ cut = lines bytes := by
  unfold CutInto
  simp only [Lines.joins_iff]
  constructor
  · intro ⟨ended, last, hparts, hcut⟩
    rw [lines, ← hparts, hcut, List.dropLast_concat, List.getLast?_concat]
    rfl
  · intro hcut
    have hparts := List.dropLast_append_getLast (List.splitOn_ne_nil (0x0A : UInt8) bytes)
    refine ⟨_, _, hparts, ?_⟩
    rw [hcut, lines, List.getLast?_eq_some_getLast (List.splitOn_ne_nil _ _)]
    rfl

section Reading

variable {number : Nat} {bytes : List UInt8} {text : String}

theorem isBlank_iff {characters : List Char} :
    isBlank characters = true ↔ ∀ c ∈ characters, Unicode.isBlank c = true :=
  List.all_eq_true

theorem isBlank_eq_false_iff {characters : List Char} :
    isBlank characters = false ↔ ∃ c ∈ characters, Unicode.isBlank c = false := by
  simp [isBlank]

/-- How a line that encodes a text is read. -/
theorem readLine_of_text (htext : text.toByteArray = bytes.toByteArray) :
    readLine number bytes =
      if isBlank text.toList then .ok none
      else match Line.ofText? text.toList with
        | some line => .ok (some line)
        | none => .error (.serialization ("invalid lexicon line " ++ toString number)) := by
  rw [readLine, File.decodeUtf8_eq_ok_iff.2 htext]
  rfl

/-- A line is read or refused, by its bytes alone. -/
theorem reads_or_refuses (number : Nat) (bytes : List UInt8) :
    (∃ content, Reads bytes content) ∨ ∃ error, Refuses number bytes error := by
  by_cases hvalid : bytes.toByteArray.IsValidUTF8
  · obtain ⟨characters, hcharacters⟩ := hvalid
    have htext := String.toByteArray_ofList.trans hcharacters.symm
    cases hblank : isBlank (String.ofList characters).toList with
    | true => exact .inl ⟨none, .blank htext (isBlank_iff.1 hblank)⟩
    | false =>
      have hblank := isBlank_eq_false_iff.1 hblank
      cases hline : Line.ofText? (String.ofList characters).toList with
      | none => exact .inr ⟨_, .notLine htext hblank hline⟩
      | some line => exact .inl ⟨some line, .line htext hblank hline⟩
  · exact .inr ⟨_, .notText hvalid⟩

theorem Reads.readLine_eq {content : Option Line} (h : Reads bytes content) :
    readLine number bytes = .ok content := by
  cases h with
  | blank htext hblank => rw [readLine_of_text htext, if_pos (isBlank_iff.2 hblank)]
  | line htext hblank hline =>
    rw [readLine_of_text htext, if_neg (ne_true_of_eq_false (isBlank_eq_false_iff.2 hblank)), hline]

theorem Refuses.readLine_eq {error : Error} (h : Refuses number bytes error) :
    readLine number bytes = .error error := by
  cases h with
  | notText hinvalid =>
    rw [readLine, File.decodeUtf8_eq_error_iff.2 ⟨hinvalid, rfl⟩]
    rfl
  | notLine htext hblank hline =>
    rw [readLine_of_text htext, if_neg (ne_true_of_eq_false (isBlank_eq_false_iff.2 hblank)), hline]

theorem readLine_eq_ok_iff {content : Option Line} :
    readLine number bytes = .ok content ↔ Reads bytes content := by
  constructor
  · intro h
    rcases reads_or_refuses number bytes with ⟨content', hreads⟩ | ⟨error, hrefuses⟩
    · rw [hreads.readLine_eq] at h
      rw [← Except.ok.inj h]
      exact hreads
    · rw [hrefuses.readLine_eq] at h
      contradiction
  · exact Reads.readLine_eq

theorem readLine_eq_error_iff {error : Error} :
    readLine number bytes = .error error ↔ Refuses number bytes error := by
  constructor
  · intro h
    rcases reads_or_refuses number bytes with ⟨content, hreads⟩ | ⟨error', hrefuses⟩
    · rw [hreads.readLine_eq] at h
      contradiction
    · rw [hrefuses.readLine_eq] at h
      rw [← Except.error.inj h]
      exact hrefuses
  · exact Refuses.readLine_eq

end Reading

theorem exists_contents {cut : List (List UInt8)} (h : ∀ line ∈ cut, ∃ content, Reads line content) :
    ∃ contents, List.Forall₂ Reads cut contents := by
  induction cut with
  | nil => exact ⟨[], .nil⟩
  | cons bytes rest ih =>
    obtain ⟨content, hcontent⟩ := h bytes List.mem_cons_self
    obtain ⟨contents, hcontents⟩ := ih fun line hline => h line (List.mem_cons_of_mem bytes hline)
    exact ⟨content :: contents, .cons hcontent hcontents⟩

section Adding

variable {lexicon : Lexicon} {number : Nat} {cut : List (List UInt8)}

/-- Lines that can be read are added one after another. -/
theorem addLines_of_forall₂ {contents : List (Option Line)} (h : List.Forall₂ Reads cut contents) :
    addLines lexicon number cut = .ok ((contents.filterMap id).foldl Lexicon.add lexicon) := by
  induction h generalizing lexicon number with
  | nil => rfl
  | @cons bytes content rest contents hcontent hrest ih =>
    rw [addLines, readLine_eq_ok_iff.2 hcontent]
    cases content with
    | none => exact ih
    | some line => exact ih

theorem exists_reads_of_addLines {result : Lexicon} (h : addLines lexicon number cut = .ok result) :
    ∀ line ∈ cut, ∃ content, Reads line content := by
  induction cut generalizing lexicon number with
  | nil => exact nofun
  | cons bytes rest ih =>
    rw [addLines] at h
    cases hresult : readLine number bytes with
    | error error =>
      rw [hresult] at h
      contradiction
    | ok content =>
      rw [hresult] at h
      intro line hline
      rcases List.mem_cons.1 hline with hfirst | hother
      · rw [hfirst]
        exact ⟨content, readLine_eq_ok_iff.1 hresult⟩
      · cases content with
        | none => exact ih h line hother
        | some added => exact ih h line hother

/-- Adding lines fails at the first if this cannot be read, and else at one of the others. -/
theorem addLines_cons_eq_error_iff {bytes : List UInt8} {error : Error} :
    addLines lexicon number (bytes :: cut) = .error error ↔ Refuses number bytes error ∨
      ∃ content, Reads bytes content ∧
        addLines (content.elim lexicon lexicon.add) (number + 1) cut = .error error := by
  rw [addLines, ← readLine_eq_error_iff]
  cases hresult : readLine number bytes with
  | error found =>
    have hnone : ∀ content, ¬ Reads bytes content := by
      intro content hcontent
      rw [readLine_eq_ok_iff.2 hcontent] at hresult
      contradiction
    simp [hnone]
  | ok content =>
    have hreads := readLine_eq_ok_iff.1 hresult
    constructor
    · intro h
      refine .inr ⟨content, hreads, ?_⟩
      cases content with
      | none => exact h
      | some line => exact h
    · rintro (h | ⟨content', hreads', h⟩)
      · contradiction
      · obtain rfl := Except.ok.inj (hresult.symm.trans (readLine_eq_ok_iff.2 hreads'))
        cases content with
        | none => exact h
        | some line => exact h

/-- The first line that cannot be read is reported, with its number. -/
theorem addLines_eq_error_iff {error : Error} :
    addLines lexicon number cut = .error error ↔ ∃ before line after,
      cut = before ++ line :: after ∧ (∀ earlier ∈ before, ∃ content, Reads earlier content) ∧
        Refuses (number + before.length) line error := by
  induction cut generalizing lexicon number with
  | nil => simp [addLines]
  | cons bytes rest ih =>
    rw [addLines_cons_eq_error_iff]
    simp only [ih]
    constructor
    · rintro (h | ⟨content, hcontent, before, line, after, hrest, hbefore, h⟩)
      · exact ⟨[], bytes, rest, rfl, nofun, h⟩
      · refine ⟨bytes :: before, line, after, ?_, ?_, ?_⟩
        · rw [hrest]
          rfl
        · intro earlier hearlier
          rcases List.mem_cons.1 hearlier with hfirst | hother
          · rw [hfirst]
            exact ⟨content, hcontent⟩
          · exact hbefore earlier hother
        · rw [List.length_cons, Nat.add_comm before.length, ← Nat.add_assoc]
          exact h
    · intro ⟨before, line, after, hcut, hbefore, h⟩
      cases before with
      | nil =>
        rw [(List.cons.inj hcut).1]
        exact .inl h
      | cons first before =>
        obtain ⟨hfirst, hrest⟩ := List.cons.inj hcut
        obtain ⟨content, hcontent⟩ := hbefore first List.mem_cons_self
        refine .inr ⟨content, hfirst ▸ hcontent, before, line, after, hrest, ?_, ?_⟩
        · intro earlier hearlier
          exact hbefore earlier (List.mem_cons_of_mem first hearlier)
        · rw [List.length_cons, Nat.add_comm before.length, ← Nat.add_assoc] at h
          exact h

end Adding

end Dump

open Dump

/-- The outcome of loading a dump. If each of its lines can be read, the lexicon holds what they
add; else the error is that of the first that cannot, whatever comes after. -/
theorem ofDump_outcome (bytes : List UInt8) :
    ∃ cut, CutInto bytes cut ∧ (∀ cut', CutInto bytes cut' → cut' = cut) ∧
      (∀ contents, List.Forall₂ Reads cut contents →
        ∃ lexicon, ofDump bytes = .ok lexicon ∧ lexicon.Holds (contents.filterMap id)) ∧
      ((∃ lexicon, ofDump bytes = .ok lexicon) ↔ ∀ line ∈ cut, ∃ content, Reads line content) ∧
      ∀ error, ofDump bytes = .error error ↔ ∃ before line after, cut = before ++ line :: after ∧
        (∀ earlier ∈ before, ∃ content, Reads earlier content) ∧
          Refuses (before.length + 1) line error := by
  have hloaded (contents : List (Option Line)) (h : List.Forall₂ Reads (lines bytes) contents) :
      ofDump bytes = .ok ((contents.filterMap id).foldl Lexicon.add {}) := addLines_of_forall₂ h
  refine ⟨lines bytes, cutInto_iff.2 rfl, fun _ => cutInto_iff.1, ?_, ?_, ?_⟩
  · intro contents h
    exact ⟨_, hloaded contents h, holds_empty.foldl _⟩
  · constructor
    · intro ⟨lexicon, h⟩
      exact exists_reads_of_addLines h
    · intro h
      obtain ⟨contents, hcontents⟩ := exists_contents h
      exact ⟨_, hloaded contents hcontents⟩
  · intro error
    simp only [Nat.add_comm _ 1]
    exact addLines_eq_error_iff

end Inflection.Lexicon
