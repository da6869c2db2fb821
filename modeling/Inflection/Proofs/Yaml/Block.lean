import Inflection.Proofs.Yaml.Lexer

/-!
The tokens of a block text, line by line. A line that is indented further than the
collection around it opens a collection, and one that is indented less closes those
beyond it. Before each line the lexer is behind the indentation of the line; what the
line closes may then have been closed beforehand.
-/

namespace Inflection.Yaml

/-- A line of a block text: the number of blanks that it begins with, and what follows them. -/
structure BlockLine where
  indent : Nat
  content : List Char

def BlockLine.text (line : BlockLine) : List Char :=
  List.replicate line.indent ' ' ++ (line.content ++ ['\n'])

namespace BlockLine

/-- The text of lines. -/
def texts (lines : List BlockLine) : List Char := lines.flatMap text

/-- The number of blanks before the next line. -/
def nextIndent : List BlockLine → Nat
  | [] => 0
  | line :: _ => line.indent

/-- The column down to which collections are closed: the outermost one at the end. -/
def nextColumn : List BlockLine → Int
  | [] => -1
  | line :: _ => line.indent

/-- The text of lines without the blanks before it. -/
def behind : List BlockLine → List Char
  | [] => []
  | line :: lines => line.content ++ '\n' :: texts lines

theorem texts_eq (lines : List BlockLine) :
    texts lines = List.replicate (nextIndent lines) ' ' ++ behind lines := by
  cases lines with
  | nil => rfl
  | cons line lines =>
    rw [texts, List.flatMap_cons, text, List.append_assoc, List.append_assoc]
    rfl

theorem nextIndent_le {lines : List BlockLine} {indent : Nat} (h : nextColumn lines ≤ indent) :
    nextIndent lines ≤ indent := by
  cases lines with
  | nil => exact Nat.zero_le indent
  | cons line lines => exact Int.ofNat_le.1 h

end BlockLine

namespace Lexer

open BlockLine (behind nextColumn nextIndent texts)

variable {l l' : Lexer} {lines more : List BlockLine}

/-- Whether the lexer is in block context behind the indentation of the next line. -/
structure AtLine (l : Lexer) (lines : List BlockLine) : Prop where
  rest : l.input.rest = behind lines
  column : l.input.column = nextIndent lines
  isSolid : IsSolid (behind lines)
  keyAllowed : l.keyAllowed = true
  isLax : l.IsLax
  outer : l.outerKeyStarts = []

theorem inFlow_of_outer (h : l.outerKeyStarts = []) : l.inFlow = false := by
  rw [inFlow, h]
  rfl

theorem outer_fresh (h : l.outerKeyStarts = []) : l.fresh.outerKeyStarts = [] := by
  rw [fresh, h]
  rfl

theorem inFlow_fresh_of_outer (h : l.outerKeyStarts = []) : l.fresh.inFlow = false :=
  inFlow_of_outer (outer_fresh h)

theorem deepest_eq {indent column : Int} (h : indent ≤ column) :
    (if indent < column then column else indent) = column := by
  split
  · rfl
  · rename_i hopen
    exact Int.le_antisymm h (Int.not_lt.1 hopen)

section Closing

/-- The state in which the innermost block is closed. -/
def closed (l : Lexer) (outer : Int) (indents : List Int) : Lexer :=
  { l.add .blockEnd with indent := outer, indents }

theorem closeBlocks_of_lt (hflow : l.inFlow = false) {outer column : Int} {indents : List Int}
    (hindents : l.indents = outer :: indents) (hindent : column < l.indent) :
    l.closeBlocks column = (l.closed outer indents).closeBlocks column := by
  have hflow' : (l.closed outer indents).inFlow = false := hflow
  rw [closeBlocks, closeBlocks, hflow, hflow', hindents, closeBlocksFrom, if_pos hindent]
  rfl

theorem run_of_isSolid (hsolid : IsSolid l.input.rest) (hlax : l.IsLax) (steps : Nat) :
    run (steps + 1) l = match l.input.rest with
      | [] => (l.fresh.closeBlocks (-1)).removeKeyStart?
      | c :: rest => ((l.fresh.closeBlocks l.input.column).token? c rest).bind (run steps) := by
  rw [run, skip_of_isSolid hsolid, hlax.dropAllStale?_eq]
  rfl

/-- A collection beyond the next line may be closed beforehand. -/
theorem AtLine.leads_closed (h : l.AtLine lines) {outer : Int} {indents : List Int}
    (hindents : l.indents = outer :: indents) (hindent : nextColumn lines < l.indent) :
    l.Leads (l.closed outer indents) := by
  refine ⟨0, Nat.le_of_eq (Nat.zero_add _), fun steps => ?_⟩
  rw [Nat.zero_add]
  cases steps with
  | zero => rfl
  | succ steps =>
    have hsolid : IsSolid l.input.rest := h.rest ▸ h.isSolid
    have hsolid' : IsSolid (l.closed outer indents).input.rest := hsolid
    have hlax : (l.closed outer indents).IsLax := ⟨h.isLax.here, h.isLax.outer⟩
    have hclose : l.fresh.closeBlocks (nextColumn lines) =
        (l.closed outer indents).fresh.closeBlocks (nextColumn lines) :=
      closeBlocks_of_lt (inFlow_fresh_of_outer h.outer) hindents hindent
    have hinput : (l.closed outer indents).input = l.input := rfl
    rw [run_of_isSolid hsolid h.isLax, run_of_isSolid hsolid' hlax, hinput]
    cases lines with
    | nil =>
      have hend : l.input.rest = [] := h.rest
      rw [hend]
      exact congrArg removeKeyStart? hclose
    | cons line lines =>
      have hcolumn : (l.input.column : Int) = line.indent := congrArg Nat.cast h.column
      have hrest : ∃ c rest, l.input.rest = c :: rest := by
        rw [h.rest, behind]
        cases line.content with
        | nil => exact ⟨_, _, rfl⟩
        | cons c content => exact ⟨_, _, rfl⟩
      obtain ⟨c, rest, hrest⟩ := hrest
      rw [hrest, hcolumn]
      exact congrArg (fun l : Lexer => (l.token? c rest).bind (run steps)) hclose

end Closing

section Keys

/-- Whether a text is read as a scalar that can be a key of a block mapping. -/
structure IsKey (content : List Char) (scalar : Token) : Prop where
  isUnbroken : IsUnbroken content
  size_le : (String.ofList content).utf8ByteSize ≤ 1024
  isSolid : ∀ rest, IsSolid (content ++ rest)
  token? : ∃ c more, content = c :: more ∧ ∀ (l : Lexer) (rest : List Char), l.inFlow = false →
    IsOptional l.keyStart → l.input.rest = content ++ ':' :: '\n' :: rest →
      l.token? c (more ++ ':' :: '\n' :: rest) =
        some (l.afterScalar scalar ⟨':' :: '\n' :: rest, l.input.place.after content⟩)

/-- A colon after a scalar at the end of a line: the scalar is a key. -/
theorem leads_blockKey {rest : List Char} {scalar : Token} {earlier : List Token}
    {required : Bool} {place : Place} {count : Nat} (houter : l.outerKeyStarts = [])
    (hrest : l.input.rest = ':' :: '\n' :: rest)
    (htokens : l.tokens = scalar :: earlier) (hcount : l.tokenCount = count + 1)
    (hstart : l.keyStart = some ⟨count, place, required⟩)
    (hstale : l.isStale ⟨count, place, required⟩ = false) (hindent : l.indent ≤ place.column)
    (hcolumn : place.column ≤ l.input.column) :
    ∃ l', l.Leads l' ∧ l'.input = ⟨'\n' :: rest, l.input.place.pass ':'⟩ ∧
      l'.tokens = .value :: scalar :: .key ::
        ((if l.indent < place.column then [.blockMappingStart] else []) ++ earlier) ∧
      l'.indent = place.column ∧
      l'.indents = (if l.indent < place.column then [l.indent] else []) ++ l.indents ∧
      l'.keyStart = none ∧ l'.outerKeyStarts = [] := by
  have hskip : l.skip = l := skip_of_isSolid (hrest ▸ isSolid_cons (by decide))
  have hdrop : l.dropAllStale? = some l.fresh := by
    apply Lexer.dropAllStale?_eq
    · intro s hs hstale'
      rw [hstart] at hs
      rw [← Option.some.inj hs, hstale] at hstale'
      contradiction
    · rw [houter]
      exact List.forall_mem_nil _
  have hready : l.skip.dropAllStale? = some l.fresh := by rw [hskip, hdrop]
  have hfresh : l.fresh.keyStart = some ⟨count, place, required⟩ := by
    rw [fresh, hstart, Option.filter_some, hstale]
    rfl
  have hclose : l.fresh.closeBlocks l.fresh.input.column = l.fresh :=
    closeBlocks_eq_self (.inr (Int.le_trans hindent (Int.ofNat_le.2 hcolumn)))
  have hinput := Input.drop_one hrest
  have hlength : (l.input.drop 1).rest.length < l.input.rest.length := by
    rw [hinput, hrest]
    exact Nat.lt_succ_self _
  have hopens : l.fresh.opensBlock place.column = decide (l.indent < place.column) := by
    rw [opensBlock, inFlow_fresh_of_outer houter]
    rfl
  have hvalue := @value?_eq l.fresh _ hfresh _ _ htokens hcount
  simp only [hopens, decide_eq_true_eq] at hvalue
  have hcolon : (l.fresh.closeBlocks l.fresh.input.column).token? ':' ('\n' :: rest) =
      l.fresh.value? := by
    rw [hclose, token?_colon _ _ (.inr rfl)]
  exact ⟨_, leads_of_token? hready hrest (hcolon.trans hvalue) hlength, hinput, rfl,
    deepest_eq hindent, rfl, rfl, outer_fresh houter⟩

end Keys

section Lines

/-- The end of a line is passed with the indentation of the next line. -/
theorem leads_lineFeed (hlax : l.IsLax) (houter : l.outerKeyStarts = [])
    (hrest : l.input.rest = '\n' :: texts lines) (hsolid : IsSolid (behind lines)) :
    ∃ l', l.Adds [] l' ∧ l'.AtLine lines := by
  rw [BlockLine.texts_eq] at hrest
  have hskip := skip_lineFeed (inFlow_of_outer houter) hrest hsolid
  refine ⟨l.skip, ⟨leads_skip ?_ ?_, ?_, ?_, ?_, ?_⟩, ?_⟩
  · rw [hskip]
    exact hsolid
  · rw [hskip, hrest, List.length_cons, List.length_append]
    exact Nat.le_succ_of_le (Nat.le_add_left _ _)
  · rw [hskip]
    rfl
  · rw [hskip]
  · rw [hskip]
  · rw [hskip]
    exact ⟨hlax.here, hlax.outer⟩
  · rw [hskip]
    exact ⟨rfl, Place.column_after_lineFeed _ _, hsolid, rfl, ⟨hlax.here, hlax.outer⟩, houter⟩

/-- Whether the lexer has come to a line by reading a part of a block collection, which this part
opens unless it is open. -/
structure AddsPart (l : Lexer) (start : Token) (column : Nat) (tokens : List Token)
    (lines : List BlockLine) (l' : Lexer) : Prop where
  leads : l.Leads l'
  atLine : l'.AtLine lines
  tokens : l'.tokens =
    tokens.reverse ++ ((if l.indent < column then [start] else []) ++ l.tokens)
  indent : l'.indent = column
  indents : l'.indents = (if l.indent < column then [l.indent] else []) ++ l.indents

/-- The first step in a line whose collection is not closed. -/
theorem AtLine.leads (h : l.AtLine lines) (hindent : l.indent ≤ l.input.column) {c : Char}
    {rest : List Char} (hrest : l.input.rest = c :: rest) (htoken : l.fresh.token? c rest = some l')
    (hlength : l'.input.rest.length ≤ rest.length) : l.Leads l' := by
  have hready : l.skip.dropAllStale? = some l.fresh := by
    rw [skip_of_isSolid (h.rest ▸ h.isSolid), h.isLax.dropAllStale?_eq]
  have hclose : l.fresh.closeBlocks l.fresh.input.column = l.fresh :=
    closeBlocks_eq_self (.inr hindent)
  refine leads_of_token? hready hrest (hclose.symm ▸ htoken) ?_
  rw [hrest]
  exact Nat.lt_succ_of_le hlength

/-- A key is read as a scalar before which a key may have begun. -/
theorem AtLine.leads_scalar {column : Nat} {content : List Char} {scalar : Token}
    (h : l.AtLine (⟨column, content ++ [':']⟩ :: lines)) (hkey : IsKey content scalar)
    (hindent : l.indent ≤ column) :
    ∃ l', l.Leads l' ∧
      l'.input = ⟨':' :: '\n' :: texts lines, l.input.place.after content⟩ ∧
      l'.tokens = scalar :: l.tokens ∧ l'.tokenCount = l.tokenCount + 1 ∧
      (∃ required, l'.keyStart = some ⟨l.tokenCount, l.input.place, required⟩) ∧
      l'.indent = l.indent ∧ l'.indents = l.indents ∧ l'.outerKeyStarts = [] := by
  obtain ⟨c, more, hcontent, htoken⟩ := hkey.token?
  have hrest : l.input.rest = content ++ ':' :: '\n' :: texts lines := by
    rw [h.rest, behind, List.append_assoc]
    rfl
  have hcolumn : l.indent ≤ l.input.column := by
    rw [h.column]
    exact hindent
  have hscalar :=
    htoken l.fresh (texts lines) (inFlow_fresh_of_outer h.outer) h.isLax.fresh.here hrest
  have hstart : l.fresh.saved.keyStart = some ⟨l.tokenCount, l.input.place,
      !l.fresh.inFlow && l.fresh.indent = l.fresh.input.column⟩ := by
    have hallowed : l.fresh.keyAllowed = true := h.keyAllowed
    rw [saved, hallowed]
    rfl
  rw [hcontent, List.cons_append] at hrest
  refine ⟨_, h.leads hcolumn hrest hscalar ?_, rfl, rfl, rfl, ⟨_, hstart⟩, rfl, rfl,
    outer_fresh h.outer⟩
  simp [afterScalar]

/-- A line that ends with a colon. -/
theorem AtLine.adds_key {column : Nat} {content : List Char} {scalar : Token}
    (h : l.AtLine (⟨column, content ++ [':']⟩ :: lines)) (hkey : IsKey content scalar)
    (hindent : l.indent ≤ column) (hsolid : IsSolid (behind lines)) :
    ∃ l', l.AddsPart .blockMappingStart column [.key, scalar, .value] lines l' := by
  obtain ⟨seen, hleads, hinput, htokens, hcount, ⟨required, hstart⟩, hsame, hsames, houter⟩ :=
    h.leads_scalar hkey hindent
  have hcolumn : l.input.place.column = column := h.column
  have hplace := Place.after_of_isUnbroken l.input.place hkey.isUnbroken
  have hstale : seen.isStale ⟨l.tokenCount, l.input.place, required⟩ = false := by
    rw [isStale, hinput, hplace]
    simp [hkey.size_le]
  have hforward : l.input.place.column ≤ seen.input.column := by
    rw [hinput, Input.column, hplace]
    exact Nat.le_add_right _ _
  have hindent' : seen.indent ≤ l.input.place.column := by
    rw [hsame, hcolumn]
    exact hindent
  obtain ⟨told, hleads', hinput', htokens', hcolumn', hindents, hnone, houter'⟩ :=
    leads_blockKey houter (congrArg Input.rest hinput) htokens hcount hstart hstale hindent'
      hforward
  have hlax : told.IsLax := isLax_of_none hnone houter'
  obtain ⟨l', hadds, hline⟩ := leads_lineFeed hlax houter' (congrArg Input.rest hinput') hsolid
  rw [hsame, hcolumn] at htokens' hindents
  rw [hsames] at hindents
  rw [hcolumn] at hcolumn'
  exact ⟨l', hleads.trans (hleads'.trans hadds.leads), hline, hadds.tokens.trans htokens',
    hadds.indent.trans hcolumn', hadds.indents.trans hindents⟩

section Items

open Scalar (isWordCharacter ne_of_isWordCharacter)

/-- A collection opens at the present column unless one is open there. -/
theorem openBlock_eq (hflow : l.inFlow = false) (token : Token) : l.openBlock token = { l with
    tokens := (if l.indent < l.input.column then [token] else []) ++ l.tokens
    tokenCount := (if l.indent < l.input.column then 1 else 0) + l.tokenCount
    indent := if l.indent < l.input.column then l.input.column else l.indent
    indents := (if l.indent < l.input.column then [l.indent] else []) ++ l.indents } := by
  by_cases hindent : l.indent < l.input.column
  · have hopens : l.opensBlock l.input.column = true := by simp [opensBlock, hflow, hindent]
    simp only [if_pos hindent]
    rw [openBlock, if_pos hopens, Nat.add_comm]
    rfl
  · have hopens : l.opensBlock l.input.column ≠ true := by simp [opensBlock, hindent]
    simp only [if_neg hindent]
    rw [openBlock, if_neg hopens, Nat.zero_add]
    rfl

theorem blockEntry_eq (hallowed : l.keyAllowed = true) (hflow : l.inFlow = false)
    (hstart : IsOptional l.keyStart) : l.blockEntry? = some
      { ({ l.openBlock .blockSequenceStart with keyStart := none }.drop 1).add .blockEntry with
        keyAllowed := true } := by
  have hoptional : IsOptional (l.openBlock .blockSequenceStart).keyStart := by
    rw [openBlock_eq hflow]
    exact hstart
  simp only [hallowed, blockEntry?, Bool.not_true, Bool.and_false, removeKeyStart?_eq hoptional]
  rfl

theorem token?_hyphen (l : Lexer) (rest : List Char) :
    l.token? '-' (' ' :: rest) = l.blockEntry? := by
  simp [token?, atDocumentMark, atBlank, isBlank]

/-- The hyphen of an item. -/
theorem AtLine.leads_hyphen {column : Nat} {content : List Char}
    (h : l.AtLine (⟨column, '-' :: ' ' :: content⟩ :: lines)) (hindent : l.indent ≤ column) :
    ∃ l', l.Leads l' ∧
      l'.input = ⟨' ' :: (content ++ '\n' :: texts lines), l.input.place.pass '-'⟩ ∧
      l'.tokens =
        .blockEntry :: ((if l.indent < column then [.blockSequenceStart] else []) ++ l.tokens) ∧
      l'.indent = column ∧
      l'.indents = (if l.indent < column then [l.indent] else []) ++ l.indents ∧
      l'.keyStart = none ∧ l'.keyAllowed = true ∧ l'.outerKeyStarts = [] := by
  have hrest : l.input.rest = '-' :: ' ' :: (content ++ '\n' :: texts lines) := h.rest
  have hcolumn : l.input.column = column := h.column
  have hinput := Input.drop_one hrest
  have hflow : l.fresh.inFlow = false := inFlow_fresh_of_outer h.outer
  have hopened := openBlock_eq hflow .blockSequenceStart
  have hentry := @blockEntry_eq l.fresh h.keyAllowed hflow h.isLax.fresh.here
  rw [hopened] at hentry
  have hlength : (l.input.drop 1).rest.length ≤
      (' ' :: (content ++ '\n' :: texts lines)).length :=
    Nat.le_of_eq (congrArg (·.rest.length) hinput)
  rw [← hcolumn] at hindent ⊢
  exact ⟨_, h.leads hindent hrest ((token?_hyphen _ _).trans hentry) hlength, hinput, rfl,
    deepest_eq hindent, rfl, rfl, rfl, outer_fresh h.outer⟩

theorem startsPlain_word {c : Char} (hc : isWordCharacter c = true) (rest : List Char) :
    startsPlain false c rest = true := by
  have hindicators : "-?:,[]\x7b\x7d#&*!|>'\"%@\x60".toList.all (!isWordCharacter ·) = true := by
    decide
  have hplain : "-?:,[]\x7b\x7d#&*!|>'\"%@\x60".toList.contains c = false := by
    rw [List.contains_eq_mem, decide_eq_false_iff_not]
    intro hmem
    have hother := List.all_eq_true.1 hindicators c hmem
    rw [hc] at hother
    contradiction
  have hblank : isBlank c = false :=
    Scalar.isBlank_eq_false (ne_of_isWordCharacter hc (by decide))
      (ne_of_isWordCharacter hc (by decide))
  rw [startsPlain, hplain, hblank]
  rfl

theorem token?_word {c : Char} (hc : isWordCharacter c = true) (hflow : l.inFlow = false)
    (rest : List Char) : l.token? c rest = l.plain? := by
  have hne {d : Char} (hd : isWordCharacter d = false) : c ≠ d := ne_of_isWordCharacter hc hd
  have hhyphen : c ≠ '-' := hne (by decide)
  have hquestion : c ≠ '?' := hne (by decide)
  have hcolon : c ≠ ':' := hne (by decide)
  have hbar : c ≠ '|' := hne (by decide)
  have hgreater : c ≠ '>' := hne (by decide)
  refine (l.ite_lineStart rest (hne (by decide)) hhyphen (hne (by decide))).trans ?_
  split
  case h_11 =>
    simp [hhyphen, hquestion, hcolon, hbar, hgreater, hflow, startsPlain_word hc]
  all_goals exact absurd hc (by decide)

theorem skip_blank {text : List Char} (hrest : l.input.rest = ' ' :: text) (hsolid : IsSolid text) :
    l.skip = { l with input := ⟨text, l.input.place.pass ' '⟩ } := by
  have hblank := @skipFrom_blanks l.inFlow l.keyAllowed l.input.place 1 text
  rw [List.replicate_one, List.singleton_append] at hblank
  rw [skip, hrest, hblank, skipFrom_of_isSolid hsolid]
  rfl

/-- A word without quotes. -/
structure IsWord (word : List Char) : Prop where
  ne_nil : word ≠ []
  isWordCharacter : ∀ c ∈ word, isWordCharacter c = true

theorem IsWord.isSolid {word : List Char} (h : IsWord word) (rest : List Char) :
    IsSolid (word ++ rest) := by
  obtain ⟨c, word, rfl⟩ := List.exists_cons_of_ne_nil h.ne_nil
  have hc := h.isWordCharacter c List.mem_cons_self
  have hne {d : Char} (hd : Scalar.isWordCharacter d = false) : c ≠ d := ne_of_isWordCharacter hc hd
  exact isSolid_cons ⟨Scalar.isBlank_eq_false (hne (by decide)) (hne (by decide)),
    Scalar.isBreak_eq_false (hne (by decide)) (hne (by decide)) (hne (by decide)),
    hne (by decide), hne (by decide)⟩

theorem plain?_word {word : List Char} (hword : IsWord word) (hsolid : IsSolid (behind lines))
    (houter : l.outerKeyStarts = []) (hstart : IsOptional l.keyStart)
    (hrest : l.input.rest = word ++ '\n' :: texts lines) {column : Nat}
    (hindent : l.indent = column) (hnext : nextColumn lines ≤ column) :
    l.plain? = some { l.afterScalar (.scalar (String.ofList word) .plain) ⟨behind lines,
        (l.input.place.after word).after ('\n' :: List.replicate (nextIndent lines) ' ')⟩ with
      keyAllowed := true } := by
  have hflow : l.saved.inFlow = false := @inFlow_of_outer l.saved houter
  have hbelow : nextIndent lines < (l.saved.indent + 1).toNat := by
    have hle := BlockLine.nextIndent_le hnext
    have hsame : l.saved.indent = column := hindent
    omega
  have hread : Scalar.plain false (l.saved.indent + 1).toNat l.saved.input =
      some ⟨word, true, ⟨behind lines, (l.input.place.after word).after
        ('\n' :: List.replicate (nextIndent lines) ' ')⟩⟩ := by
    have hsame : l.saved.input.rest = word ++ '\n' :: texts lines := hrest
    rw [Scalar.plain, hsame, Scalar.plainFrom_word hword.isWordCharacter, BlockLine.texts_eq,
      Scalar.plainFrom_lineFeed hbelow hsolid, List.append_nil, List.reverse_reverse]
    rfl
  rw [plain?, saveKeyStart?_eq hstart]
  simp only [Option.bind_eq_bind, Option.bind_some, hflow, hread]
  rfl

/-- A word at the end of a line, if the next line is not indented further than the block. -/
theorem IsReady.adds_word (h : l.IsReady) {word : List Char} (hword : IsWord word)
    (hsolid : IsSolid (behind lines)) (houter : l.outerKeyStarts = [])
    (hrest : l.input.rest = word ++ '\n' :: texts lines) {column : Nat}
    (hindent : l.indent = column) (hnext : nextColumn lines ≤ column) :
    ∃ l', l.Adds [.scalar (String.ofList word) .plain] l' ∧ l'.AtLine lines := by
  have houter' := outer_fresh houter
  have hplain := @plain?_word l.fresh _ word hword hsolid houter' h.isLax.fresh.here hrest _ hindent
    hnext
  obtain ⟨c, more, hcontent⟩ := List.exists_cons_of_ne_nil hword.ne_nil
  have hc : isWordCharacter c = true := hword.isWordCharacter c (hcontent ▸ List.mem_cons_self)
  have hline : IsSolid (c :: (more ++ '\n' :: texts lines)) := by
    have hword := hword.isSolid ('\n' :: texts lines)
    rwa [hcontent] at hword
  rw [hcontent, List.cons_append] at hrest
  have hlength : (behind lines).length ≤ (more ++ '\n' :: texts lines).length := by
    rw [BlockLine.texts_eq, List.length_append, List.length_cons, List.length_append]
    omega
  have hsaved := h.fresh.saved
  refine ⟨_, ⟨h.leads hrest hline ((token?_word hc (inFlow_fresh_of_outer houter) _).trans hplain)
    hlength, rfl, rfl, rfl, ⟨hsaved.here, hsaved.outer⟩⟩, ⟨rfl, ?_, hsolid, rfl,
    ⟨hsaved.here, hsaved.outer⟩, houter'⟩⟩
  exact Place.column_after_lineFeed _ _

/-- A line with an item. -/
theorem AtLine.adds_item {column : Nat} {word : List Char}
    (h : l.AtLine (⟨column, '-' :: ' ' :: word⟩ :: lines)) (hword : IsWord word)
    (hindent : l.indent ≤ column) (hsolid : IsSolid (behind lines))
    (hnext : nextColumn lines ≤ column) :
    ∃ l', l.AddsPart .blockSequenceStart column
      [.blockEntry, .scalar (String.ofList word) .plain] lines l' := by
  obtain ⟨begun, hleads, hinput, htokens, hcolumn, hindents, hnone, hallowed, houter⟩ :=
    h.leads_hyphen hindent
  have hskip := skip_blank (congrArg Input.rest hinput) (hword.isSolid _)
  have hbegun : begun.Leads begun.skip := by
    apply leads_skip
    · rw [hskip]
      exact hword.isSolid _
    · rw [hskip, hinput]
      exact Nat.le_succ _
  have hready : begun.skip.IsReady := by
    rw [hskip]
    refine ⟨isLax_of_none hnone houter, .inr ?_⟩
    have hplace : (begun.input.place.pass ' ').column = l.input.place.column + 2 := by
      rw [hinput]
      rfl
    have hbegin : l.input.place.column = column := h.column
    simp only [Input.column, hplace, hbegin, hcolumn]
    omega
  obtain ⟨l', hadds, hline⟩ := hready.adds_word hword hsolid (by rw [hskip, houter])
    (by rw [hskip]) (by rw [hskip, hcolumn]) hnext
  refine ⟨l', hleads.trans (hbegun.trans hadds.leads), hline, ?_, ?_, ?_⟩
  · rw [hadds.tokens, hskip, htokens]
    rfl
  · rw [hadds.indent, hskip, hcolumn]
  · rw [hadds.indents, hskip, hindents]

end Items

section KeyTexts

/-- An ASCII text takes one byte for each character. -/
theorem utf8ByteSize_eq_length {text : List Char} (h : ∀ c ∈ text, c.toNat ≤ 127) :
    (String.ofList text).utf8ByteSize = text.length := by
  induction text with
  | nil => rfl
  | cons c text ih =>
    have hc : c.utf8Size = 1 :=
      Char.utf8Size_eq_one_iff.2 (UInt32.le_iff_toNat_le.2 (h c List.mem_cons_self))
    have hothers := ih fun d hd => h d (List.mem_cons_of_mem c hd)
    rw [String.ofList_cons, String.utf8ByteSize_append, String.utf8ByteSize_singleton, hothers, hc,
      List.length_cons, Nat.add_comm]

theorem IsWord.isPrintable {word : List Char} (h : IsWord word) :
    ∀ c ∈ word, 32 ≤ c.toNat ∧ c.toNat ≤ 126 := by
  intro c hc
  have hrange := Scalar.toNat_of_isWordCharacter (h.isWordCharacter c hc)
  omega

theorem IsWord.isUnbroken {word : List Char} (h : IsWord word) : IsUnbroken word := by
  intro c hc
  have hne {d : Char} (hd : Scalar.isWordCharacter d = false) : c ≠ d :=
    Scalar.ne_of_isWordCharacter (h.isWordCharacter c hc) hd
  exact Scalar.isBreak_eq_false (hne (by decide)) (hne (by decide)) (hne (by decide))

theorem isKey_word {word : List Char} (hword : IsWord word) (hlength : word.length ≤ 1024) :
    IsKey word (.scalar (String.ofList word) .plain) where
  isUnbroken := hword.isUnbroken
  size_le := by
    rw [utf8ByteSize_eq_length fun c hc => Nat.le_succ_of_le (hword.isPrintable c hc).2]
    exact hlength
  isSolid := hword.isSolid
  token? := by
    obtain ⟨c, more, hcontent⟩ := List.exists_cons_of_ne_nil hword.ne_nil
    have hc := hword.isWordCharacter c (hcontent ▸ List.mem_cons_self)
    refine ⟨c, more, hcontent, fun l rest hflow hstart hrest => ?_⟩
    have hread : Scalar.plain false (l.saved.indent + 1).toNat l.saved.input =
        some ⟨word, false, ⟨':' :: '\n' :: rest, l.input.place.after word⟩⟩ := by
      have hsame : l.saved.input.rest = word ++ ':' :: '\n' :: rest := hrest
      rw [Scalar.plain, hsame, Scalar.plainFrom_word hword.isWordCharacter,
        Scalar.plainFrom_colon rfl, List.append_nil, List.reverse_reverse]
      rfl
    have hflow' : l.saved.inFlow = false := hflow
    rw [token?_word hc hflow, plain?, saveKeyStart?_eq hstart]
    simp only [Option.bind_eq_bind, Option.bind_some, hflow', hread]
    rfl

theorem isKey_digits {digits : List Char} (h : ∀ c ∈ digits, c.isDigit = true)
    (hlength : digits.length ≤ 1022) :
    IsKey ('\'' :: (digits ++ ['\''])) (.scalar (String.ofList digits) .singleQuoted) where
  isUnbroken := by
    intro c hc
    rw [List.mem_cons, List.mem_append, List.mem_singleton] at hc
    rcases hc with rfl | hc | rfl
    · decide
    · have hne {d : Char} (hd : d.isDigit = false) : c ≠ d := Json.Reader.ne_of_isDigit (h c hc) hd
      exact Scalar.isBreak_eq_false (hne (by decide)) (hne (by decide)) (hne (by decide))
    · decide
  size_le := by
    rw [utf8ByteSize_eq_length]
    · simp only [List.length_cons, List.length_append, List.length_nil]
      omega
    · intro c hc
      rw [List.mem_cons, List.mem_append, List.mem_singleton] at hc
      rcases hc with rfl | hc | rfl
      · decide
      · exact Nat.le_trans (Scalar.toNat_of_isDigit (h c hc)).2 (by decide)
      · decide
  isSolid rest := isSolid_cons (by decide)
  token? := by
    refine ⟨'\'', digits ++ ['\''], rfl, fun l rest hflow hstart hrest => ?_⟩
    rw [List.cons_append, List.append_assoc] at hrest
    have hinput := Input.drop_one hrest
    have hread : Scalar.singleQuoted (l.input.drop 1) = some (digits, ⟨':' :: '\n' :: rest,
        (l.input.place.pass '\'').after (digits ++ ['\''])⟩) := by
      rw [hinput, Scalar.singleQuoted]
      exact @Scalar.singleQuotedFrom_append digits h (':' :: '\n' :: rest) (by simp) []
        (l.input.place.pass '\'')
    rw [token?_apostrophe, quoted?_eq .singleQuoted hstart hread]
    rfl

end KeyTexts

end Lines

section Collections

/-- Whether lines are a part of a block collection at a column. The next line is not indented
further. -/
structure IsBlockPart (start : Token) (column : Nat) (lines : List BlockLine)
    (tokens : List Token) : Prop where
  nextColumn_eq : ∀ more, nextColumn (lines ++ more) = column
  isSolid : ∀ more, IsSolid (behind (lines ++ more))
  adds : ∀ (l : Lexer) (more : List BlockLine), l.AtLine (lines ++ more) → IsSolid (behind more) →
    l.indent ≤ column → nextColumn more ≤ column →
      ∃ l', l.AddsPart start column tokens more l'

/-- Whether lines are a block collection at a column. The next line is indented less. -/
structure IsBlock (column : Nat) (lines : List BlockLine) (tokens : List Token) : Prop where
  nextColumn_eq : ∀ more, nextColumn (lines ++ more) = column
  isSolid : ∀ more, IsSolid (behind (lines ++ more))
  adds : ∀ (l : Lexer) (more : List BlockLine), l.AtLine (lines ++ more) → IsSolid (behind more) →
    l.indent < column → nextColumn more < column → ∃ l', l.Adds tokens l' ∧ l'.AtLine more

theorem isBlockPart_item (column : Nat) {word : List Char} (hword : IsWord word) :
    IsBlockPart .blockSequenceStart column [⟨column, '-' :: ' ' :: word⟩]
      [.blockEntry, .scalar (String.ofList word) .plain] where
  nextColumn_eq _ := rfl
  isSolid _ := isSolid_cons (by decide)
  adds _ _ h hsolid hindent hnext := h.adds_item hword hindent hsolid hnext

/-- A key with its value on the lines below it. -/
theorem isBlockPart_pair {column inner : Nat} (hinner : column < inner) {content : List Char}
    {scalar : Token} (hkey : IsKey content scalar) {tokens : List Token}
    (hvalue : IsBlock inner lines tokens) :
    IsBlockPart .blockMappingStart column (⟨column, content ++ [':']⟩ :: lines)
      (.key :: scalar :: .value :: tokens) where
  nextColumn_eq _ := rfl
  isSolid more := by
    rw [List.cons_append, behind, List.append_assoc]
    exact hkey.isSolid _
  adds l more h hsolid hindent hnext := by
    obtain ⟨keyed, hkeyed⟩ := h.adds_key hkey hindent (hvalue.isSolid more)
    have hdeeper : keyed.indent < inner := by
      rw [hkeyed.indent]
      exact Int.ofNat_lt.2 hinner
    have hafter : nextColumn more < inner := Int.lt_of_le_of_lt hnext (Int.ofNat_lt.2 hinner)
    obtain ⟨l', hadds, hline⟩ := hvalue.adds keyed more hkeyed.atLine hsolid hdeeper hafter
    refine ⟨l', hkeyed.leads.trans hadds.leads, hline, ?_, hadds.indent.trans hkeyed.indent,
      hadds.indents.trans hkeyed.indents⟩
    rw [hadds.tokens, hkeyed.tokens]
    simp

variable {α : Type} {list : List α} {start : Token} {column : Nat}
  {linesOf : α → List BlockLine} {tokens : α → List Token}

/-- Parts of one collection. -/
theorem isBlockPart_flatMap (hne : list ≠ [])
    (h : ∀ a ∈ list, IsBlockPart start column (linesOf a) (tokens a)) :
    IsBlockPart start column (list.flatMap linesOf) (list.flatMap tokens) := by
  induction list with
  | nil => contradiction
  | cons a list ih =>
    have ha := h a List.mem_cons_self
    cases list with
    | nil =>
      rw [List.flatMap_singleton, List.flatMap_singleton]
      exact ha
    | cons b list =>
      have hothers := ih (List.cons_ne_nil b list) fun c hc => h c (List.mem_cons_of_mem a hc)
      constructor
      · intro more
        rw [List.flatMap_cons, List.append_assoc]
        exact ha.nextColumn_eq _
      · intro more
        rw [List.flatMap_cons, List.append_assoc]
        exact ha.isSolid _
      · intro l more hline hsolid hindent hnext
        rw [List.flatMap_cons, List.append_assoc] at hline
        obtain ⟨middle, hfirst⟩ := ha.adds l _ hline (hothers.isSolid more) hindent
          (Int.le_of_eq (hothers.nextColumn_eq more))
        obtain ⟨l', hlast⟩ := hothers.adds middle more hfirst.atLine hsolid
          (Int.le_of_eq hfirst.indent) hnext
        have hopen : ¬ middle.indent < column := by
          rw [hfirst.indent]
          exact Int.lt_irrefl _
        have htokens : (a :: b :: list).flatMap tokens = tokens a ++ (b :: list).flatMap tokens :=
          List.flatMap_cons
        refine ⟨l', hfirst.leads.trans hlast.leads, hlast.atLine, ?_, hlast.indent, ?_⟩
        · rw [hlast.tokens, if_neg hopen, hfirst.tokens, htokens, List.reverse_append,
            List.nil_append, List.append_assoc]
        · rw [hlast.indents, if_neg hopen, hfirst.indents, List.nil_append]

/-- The line after a collection closes it. -/
theorem IsBlockPart.isBlock {tokens : List Token} (h : IsBlockPart start column lines tokens) :
    IsBlock column lines (start :: (tokens ++ [.blockEnd])) where
  nextColumn_eq := h.nextColumn_eq
  isSolid := h.isSolid
  adds l more hline hsolid hindent hnext := by
    obtain ⟨last, hadds⟩ := h.adds l more hline hsolid (Int.le_of_lt hindent) (Int.le_of_lt hnext)
    have hindents : last.indents = l.indent :: l.indents := by
      rw [hadds.indents, if_pos hindent, List.singleton_append]
    have hbeyond : nextColumn more < last.indent := by
      rw [hadds.indent]
      exact hnext
    have hclosed := hadds.atLine.leads_closed hindents hbeyond
    have hlax : (last.closed l.indent l.indents).IsLax :=
      ⟨hadds.atLine.isLax.here, hadds.atLine.isLax.outer⟩
    have hafter := hadds.atLine
    refine ⟨_, ⟨hadds.leads.trans hclosed, ?_, rfl, rfl, hlax⟩,
      ⟨hafter.rest, hafter.column, hafter.isSolid, hafter.keyAllowed, hlax, hafter.outer⟩⟩
    have htokens := hadds.tokens
    rw [if_pos hindent] at htokens
    simp [closed, add, htokens]

end Collections

end Lexer

/-- The tokens of a block text whose lines are one collection. -/
theorem Lexer.IsBlock.ofText?_eq {lines : List BlockLine} {tokens : List Token}
    (h : Lexer.IsBlock 0 lines tokens) (hstream : IsStream (BlockLine.texts lines)) :
    Token.ofText? (BlockLine.texts lines) = some tokens := by
  have hcolumn := h.nextColumn_eq []
  have hsolid := h.isSolid []
  rw [List.append_nil] at hcolumn hsolid
  have hindent : BlockLine.nextIndent lines = 0 :=
    Nat.le_zero.1 (BlockLine.nextIndent_le (Int.le_of_eq hcolumn))
  have hrest : BlockLine.texts lines = BlockLine.behind lines := by
    rw [BlockLine.texts_eq, hindent]
    rfl
  have hline : Lexer.AtLine { input := { rest := BlockLine.texts lines } } (lines ++ []) := by
    rw [List.append_nil]
    exact ⟨hrest, hindent.symm, hsolid, rfl, isLax_of_none rfl rfl, rfl⟩
  obtain ⟨l, hadds, hend⟩ := h.adds _ [] hline isSolid_nil (show (-1 : Int) < 0 by decide)
    (show (-1 : Int) < 0 by decide)
  rw [Token.ofText?_of_leads hstream hadds.leads hend.rest hadds.isLax hadds.indent, hadds.tokens,
    List.append_nil, List.reverse_reverse]

end Inflection.Yaml
