import Inflection.Proofs.Json.Codec
import Inflection.Proofs.Yaml.Scalar
import Inflection.Yaml.Token

/-!
Steps of the lexer. What is passed between tokens, the places where a key can no
longer have begun, and the blocks that a line closes may be seen to before a step:
this changes nothing. A key ends on its line and within 1024 bytes; otherwise the
place where it began is forgotten.
-/

namespace Inflection.Yaml.Lexer

/-- Whether the lexer comes from one state to another. Each step takes at least one character. -/
def Leads (l l' : Lexer) : Prop :=
  ∃ count, count + l'.input.rest.length ≤ l.input.rest.length ∧
    ∀ steps, run (count + steps) l = run steps l'

variable {l l' l'' : Lexer}

theorem Leads.refl (l : Lexer) : l.Leads l :=
  ⟨0, by omega, fun steps => by rw [Nat.zero_add]⟩

theorem Leads.trans (h : l.Leads l') (h' : l'.Leads l'') : l.Leads l'' := by
  obtain ⟨count, hcount, hrun⟩ := h
  obtain ⟨count', hcount', hrun'⟩ := h'
  refine ⟨count + count', by omega, fun steps => ?_⟩
  rw [Nat.add_assoc, hrun, hrun']

section KeyStarts

/-- Whether no key is required at a place. -/
def IsOptional (start : Option KeyStart) : Prop := ∀ s ∈ start, s.required = false

theorem isOptional_none : IsOptional none := nofun

/-- The state without the places where a key can no longer have begun. -/
def fresh (l : Lexer) : Lexer :=
  { l with
    keyStart := l.keyStart.filter (!l.isStale ·)
    outerKeyStarts := l.outerKeyStarts.map (·.filter (!l.isStale ·)) }

theorem dropStale?_eq {start : Option KeyStart}
    (h : ∀ s ∈ start, l.isStale s = true → s.required = false) :
    l.dropStale? start = some (start.filter (!l.isStale ·)) := by
  cases start with
  | none => rfl
  | some s =>
    have hrequired := h s rfl
    cases hstale : l.isStale s with
    | true => simp [dropStale?, hstale, hrequired hstale, Option.filter_some]
    | false => simp [dropStale?, hstale, Option.filter_some]

theorem dropAllStale?_eq (h : ∀ s ∈ l.keyStart, l.isStale s = true → s.required = false)
    (houter : ∀ start ∈ l.outerKeyStarts, IsOptional start) : l.dropAllStale? = some l.fresh := by
  have hall : (l.outerKeyStarts.map id).mapM l.dropStale? =
      some (l.outerKeyStarts.map (·.filter (!l.isStale ·))) :=
    Json.mapM_map_eq_some fun start hstart => dropStale?_eq fun s hs _ => houter start hstart s hs
  rw [List.map_id] at hall
  rw [dropAllStale?, dropStale?_eq h, Option.bind_eq_bind, Option.bind_some, hall]
  rfl

theorem IsOptional.filter {start : Option KeyStart} (h : IsOptional start)
    (keeps : KeyStart → Bool) : IsOptional (start.filter keeps) := by
  intro s hs
  exact h s (Option.mem_filter_iff.1 hs).1

/-- Whether no key is required where one may have begun. -/
structure IsLax (l : Lexer) : Prop where
  here : IsOptional l.keyStart
  outer : ∀ start ∈ l.outerKeyStarts, IsOptional start

theorem isLax_of_none (hstart : l.keyStart = none) (houter : l.outerKeyStarts = []) : l.IsLax where
  here := hstart ▸ isOptional_none
  outer := houter ▸ List.forall_mem_nil _

theorem IsLax.fresh (h : l.IsLax) : l.fresh.IsLax where
  here := h.here.filter _
  outer start hstart := by
    obtain ⟨start, hmem, rfl⟩ := List.mem_map.1 hstart
    exact (h.outer start hmem).filter _

theorem IsLax.dropAllStale?_eq (h : l.IsLax) : l.dropAllStale? = some l.fresh :=
  Lexer.dropAllStale?_eq (fun s hs _ => h.here s hs) h.outer

theorem removeKeyStart?_eq (h : IsOptional l.keyStart) :
    l.removeKeyStart? = some { l with keyStart := none } := by
  cases hstart : l.keyStart with
  | none => simp [removeKeyStart?, hstart]
  | some s => simp [removeKeyStart?, hstart, h s hstart]

/-- The state in which it is noted that a key may begin here. -/
def saved (l : Lexer) : Lexer :=
  { l with
    keyStart :=
      if l.keyAllowed then
        some ⟨l.tokenCount, l.input.place, !l.inFlow && l.indent = l.input.column⟩
      else l.keyStart }

theorem saveKeyStart?_eq (h : IsOptional l.keyStart) : l.saveKeyStart? = some l.saved := by
  cases hallowed : l.keyAllowed with
  | true => simp [saveKeyStart?, saved, hallowed, removeKeyStart?_eq h, inFlow]
  | false =>
    have hsaved : l.saved = l := by
      unfold saved
      rw [if_neg (Bool.eq_false_iff.1 hallowed)]
    rw [hsaved, saveKeyStart?, hallowed]
    rfl

/-- The state after a scalar, before which a key may have begun. -/
def afterScalar (l : Lexer) (token : Token) (input : Input) : Lexer :=
  { l.saved.add token with input, keyAllowed := false }

theorem quoted?_eq (style : ScalarStyle) {read : Input → Option (List Char × Input)}
    {text : List Char} {input : Input} (h : IsOptional l.keyStart)
    (hread : read (l.input.drop 1) = some (text, input)) :
    l.quoted? style read = some (l.afterScalar (.scalar (String.ofList text) style) input) := by
  rw [quoted?, saveKeyStart?_eq h]
  simp only [Option.bind_eq_bind, Option.bind_some, saved, hread]
  rfl

end KeyStarts

section Skipping

theorem skipFrom_of_isSolid {inFlow keyAllowed : Bool} {place : Place} {text : List Char}
    (h : IsSolid text) :
    skipFrom inFlow false keyAllowed place text = (keyAllowed, ⟨text, place⟩) := by
  cases text with
  | nil => rfl
  | cons c text =>
    obtain ⟨hblank, hbreak, hcomment, hmark⟩ := h c rfl
    rw [isBlank, Bool.or_eq_false_iff, decide_eq_false_iff_not, decide_eq_false_iff_not] at hblank
    rw [skipFrom]
    simp [hbreak, hblank, hcomment, hmark]

theorem skip_of_isSolid (h : IsSolid l.input.rest) : l.skip = l := by
  rw [skip, skipFrom_of_isSolid h]

theorem skipFrom_blanks {inFlow keyAllowed : Bool} {place : Place} {depth : Nat}
    {text : List Char} : skipFrom inFlow false keyAllowed place (List.replicate depth ' ' ++ text) =
      skipFrom inFlow false keyAllowed (place.after (List.replicate depth ' ')) text := by
  induction depth generalizing place with
  | zero => rfl
  | succ depth ih =>
    rw [List.replicate_succ, List.cons_append, skipFrom, Place.after_cons, ← ih]
    simp [isBreak]

/-- In block context a key may begin on a new line. -/
theorem skip_lineFeed {depth : Nat} {text : List Char} (hflow : l.inFlow = false)
    (hrest : l.input.rest = '\n' :: (List.replicate depth ' ' ++ text)) (htext : IsSolid text) :
    l.skip = { l with
      keyAllowed := true
      input := ⟨text, l.input.place.after ('\n' :: List.replicate depth ' ')⟩ } := by
  rw [skip, hrest, hflow, skipFrom]
  simp only [isBreak, decide_true, Bool.true_or, if_true, Bool.not_false, Bool.or_true,
    skipFrom_blanks, skipFrom_of_isSolid htext, Place.after_cons]

end Skipping

theorem closeBlocks_eq_self {column : Int} (h : l.inFlow = true ∨ l.indent ≤ column) :
    l.closeBlocks column = l := by
  unfold closeBlocks
  split
  · rfl
  · rename_i hblock
    have hindent : ¬ l.indent > column := Int.not_lt.2 (h.resolve_left hblock)
    unfold closeBlocksFrom
    split
    · rw [if_neg hindent]
    · rw [if_neg hindent]

/-- Tokens that are put before the last one. -/
theorem insert_eq {last : Token} {earlier : List Token} (htokens : l.tokens = last :: earlier)
    {count : Nat} (hcount : l.tokenCount = count + 1) (tokens : List Token) :
    l.insert count tokens = { l with
      tokens := last :: (tokens.reverse ++ earlier)
      tokenCount := l.tokenCount + tokens.length } := by
  have hone : l.tokenCount - count = 1 := by omega
  rw [insert, hone, htokens, List.splitAt_eq]
  rfl

/-- A colon makes a key of the scalar before it, if a key may have begun there. -/
theorem value?_eq {start : KeyStart} (hstart : l.keyStart = some start) {scalar : Token}
    {earlier : List Token} (htokens : l.tokens = scalar :: earlier)
    (hcount : l.tokenCount = start.tokenCount + 1) : l.value? = some { l with
      input := l.input.drop 1
      tokens := .value :: scalar :: .key ::
        ((if l.opensBlock start.place.column then [.blockMappingStart] else []) ++ earlier)
      tokenCount := l.tokenCount + (if l.opensBlock start.place.column then 2 else 1) + 1
      indent := if l.opensBlock start.place.column then start.place.column else l.indent
      indents := (if l.opensBlock start.place.column then [l.indent] else []) ++ l.indents
      keyStart := none
      keyAllowed := false } := by
  rw [value?, hstart]
  simp only [insert_eq htokens hcount]
  cases l.opensBlock start.place.column with
  | false => rfl
  | true => rfl

section Indicators

variable (l : Lexer) (rest : List Char)

/-- A character that begins neither a directive nor a document mark is read at the beginning of a
line as anywhere else. -/
theorem ite_lineStart {α : Type} {c : Char} (hpercent : c ≠ '%') (hhyphen : c ≠ '-')
    (hperiod : c ≠ '.') {directive mark token : α} :
    (if l.input.column = 0 && c = '%' then directive
      else if l.input.column = 0 && atDocumentMark (c :: rest) then mark
      else token) = token := by
  simp [hpercent, Scalar.atDocumentMark_cons hhyphen hperiod]

theorem token?_bracket : l.token? '[' rest = l.openFlow? .flowSequenceStart :=
  l.ite_lineStart rest (by decide) (by decide) (by decide)

theorem token?_brace : l.token? '\x7b' rest = l.openFlow? .flowMappingStart :=
  l.ite_lineStart rest (by decide) (by decide) (by decide)

theorem token?_closingBracket : l.token? ']' rest = l.closeFlow? .flowSequenceEnd :=
  l.ite_lineStart rest (by decide) (by decide) (by decide)

theorem token?_closingBrace : l.token? '\x7d' rest = l.closeFlow? .flowMappingEnd :=
  l.ite_lineStart rest (by decide) (by decide) (by decide)

theorem token?_comma : l.token? ',' rest = l.flowEntry? :=
  l.ite_lineStart rest (by decide) (by decide) (by decide)

theorem token?_colon (h : l.inFlow = true ∨ atBlank rest = true) :
    l.token? ':' rest = l.value? := by
  refine (l.ite_lineStart rest (by decide) (by decide) (by decide)).trans ?_
  simp [h]

theorem token?_quote : l.token? '"' rest = l.quoted? .doubleQuoted Scalar.doubleQuoted :=
  l.ite_lineStart rest (by decide) (by decide) (by decide)

theorem token?_apostrophe : l.token? '\'' rest = l.quoted? .singleQuoted Scalar.singleQuoted :=
  l.ite_lineStart rest (by decide) (by decide) (by decide)

end Indicators

section Steps

/-- A step that reads a token. -/
theorem leads_of_token? {c : Char} {rest : List Char} {ready : Lexer}
    (hready : l.skip.dropAllStale? = some ready) (hrest : ready.input.rest = c :: rest)
    (htoken : (ready.closeBlocks ready.input.column).token? c rest = some l')
    (hlength : l'.input.rest.length < l.input.rest.length) : l.Leads l' := by
  refine ⟨1, by omega, fun steps => ?_⟩
  rw [Nat.add_comm, run, hready]
  simp only [Option.bind_eq_bind, Option.bind_some, hrest, htoken]

/-- What is passed before a token may be passed beforehand. -/
theorem leads_skip (h : IsSolid l.skip.input.rest)
    (hlength : l.skip.input.rest.length ≤ l.input.rest.length) : l.Leads l.skip := by
  refine ⟨0, by omega, fun steps => ?_⟩
  rw [Nat.zero_add]
  cases steps with
  | zero => rfl
  | succ steps => rw [run, run, skip_of_isSolid h]

/-- At the end of a text outside all collections nothing is left to be read. -/
theorem run_of_rest_eq_nil (hrest : l.input.rest = []) (hlax : l.IsLax) (hindent : l.indent = -1)
    (steps : Nat) : run (steps + 1) l = some { l.fresh with keyStart := none } := by
  have hskip : l.skip = l := skip_of_isSolid (hrest ▸ isSolid_nil)
  have hclose : l.fresh.closeBlocks (-1) = l.fresh :=
    closeBlocks_eq_self (.inr (Int.le_of_eq hindent))
  have hend : l.fresh.input.rest = [] := hrest
  rw [run, hskip, hlax.dropAllStale?_eq, Option.bind_eq_bind, Option.bind_some]
  simp only [hend]
  rw [hclose, removeKeyStart?_eq hlax.fresh.here]

/-- Whether some tokens have been added in the same block. -/
structure Adds (l : Lexer) (tokens : List Token) (l' : Lexer) : Prop where
  leads : l.Leads l'
  tokens : l'.tokens = tokens.reverse ++ l.tokens
  indent : l'.indent = l.indent
  indents : l'.indents = l.indents
  isLax : l'.IsLax

theorem Adds.refl (h : l.IsLax) : l.Adds [] l :=
  ⟨.refl l, rfl, rfl, rfl, h⟩

theorem Adds.trans {tokens more : List Token} (h : l.Adds tokens l') (h' : l'.Adds more l'') :
    l.Adds (tokens ++ more) l'' where
  leads := h.leads.trans h'.leads
  tokens := by rw [h'.tokens, h.tokens, List.reverse_append, List.append_assoc]
  indent := h'.indent.trans h.indent
  indents := h'.indents.trans h.indents
  isLax := h'.isLax

/-- Whether a node may begin here: no key is required here or where one may have begun, and no block
ends here. -/
structure IsReady (l : Lexer) : Prop where
  isLax : l.IsLax
  inside : l.inFlow = true ∨ l.indent < l.input.column

theorem inFlow_fresh (l : Lexer) : l.fresh.inFlow = l.inFlow := by
  rw [inFlow, inFlow, fresh, List.isEmpty_map]

theorem IsReady.fresh (h : l.IsReady) : l.fresh.IsReady where
  isLax := h.isLax.fresh
  inside := by
    rw [inFlow_fresh]
    exact h.inside

theorem IsReady.saved (h : l.IsReady) : l.saved.IsLax where
  here := by
    intro s hs
    cases hallowed : l.keyAllowed with
    | true =>
      rw [Lexer.saved, hallowed] at hs
      rw [← Option.some.inj hs]
      rcases h.inside with hflow | hindent
      · simp [hflow]
      · simp [Int.ne_of_lt hindent]
    | false =>
      rw [Lexer.saved, hallowed] at hs
      exact h.isLax.here s hs
  outer := h.isLax.outer

/-- A step in a flow collection, or one that opens it. -/
theorem IsReady.leads (h : l.IsReady) {c : Char} {rest : List Char}
    (hrest : l.input.rest = c :: rest) (hsolid : IsSolid (c :: rest))
    (htoken : l.fresh.token? c rest = some l') (hlength : l'.input.rest.length ≤ rest.length) :
    l.Leads l' := by
  have hskip : l.skip = l := skip_of_isSolid (hrest ▸ hsolid)
  have hclose : l.fresh.closeBlocks l.fresh.input.column = l.fresh :=
    closeBlocks_eq_self (h.fresh.inside.imp_right Int.le_of_lt)
  have hready : l.skip.dropAllStale? = some l.fresh := by rw [hskip, h.isLax.dropAllStale?_eq]
  refine leads_of_token? hready hrest ?_ ?_
  · rw [hclose, htoken]
  · rw [hrest]
    exact Nat.lt_succ_of_le hlength

end Steps

end Lexer

/-- The tokens of a text are those that have been read at its end. -/
theorem Token.ofText?_of_leads {text : List Char} (htext : IsStream text) {l : Lexer}
    (h : Lexer.Leads { input := { rest := text } } l) (hrest : l.input.rest = [])
    (hlax : l.IsLax) (hindent : l.indent = -1) : Token.ofText? text = some l.tokens.reverse := by
  obtain ⟨count, hcount, hrun⟩ := h
  obtain ⟨steps, hsteps⟩ := Nat.exists_eq_add_of_le (Nat.le_of_add_right_le hcount)
  have hallowed : text.all isAllowed = true := List.all_eq_true.2 fun c hc => (htext c hc).1
  have hread : Lexer.run (text.length + 1) { input := { rest := text } } =
      some { l.fresh with keyStart := none } := by
    rw [hsteps, Nat.add_assoc, hrun, Lexer.run_of_rest_eq_nil hrest hlax hindent]
  rw [Token.ofText?, if_pos hallowed, unifyBreaks_eq_self htext]
  simp only [hread]
  rfl

end Inflection.Yaml
