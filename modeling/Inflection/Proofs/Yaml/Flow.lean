import Inflection.Proofs.Yaml.Lexer

/-!
The tokens of a JSON text. Values that are made of strings, arrays and objects are
seen as flow collections, each character that opens, separates or closes them as a
token of its own. What tells a key from other strings is put before it, unless it
takes more than 1024 bytes.
-/

namespace Inflection.Yaml

/-- Whether a key is short enough to be seen as one, as it is written. -/
def IsShortKey (key : String) : Prop := (Json.write key).utf8ByteSize ≤ 1024

instance (key : String) : Decidable (IsShortKey key) := inferInstanceAs (Decidable (_ ≤ _))

namespace Lexer

/-- The number of flow collections around a place. -/
def depth (l : Lexer) : Nat := l.outerKeyStarts.length

variable {l l' l'' : Lexer}

theorem inFlow_eq (l : Lexer) : l.inFlow = decide (0 < l.depth) := by
  rw [inFlow, depth]
  cases l.outerKeyStarts with
  | nil => rfl
  | cons start outer => rfl

theorem inFlow_of_depth_eq (h : l'.depth = l.depth) (hflow : l.inFlow = true) :
    l'.inFlow = true := by
  rw [inFlow_eq, h, ← inFlow_eq, hflow]

section Strings

open Json.Writer (character)

/-- A JSON string is a scalar. -/
theorem token?_string {text : String} (htext : ∀ c ∈ text.toList, IsPortable c) {rest : List Char}
    (hstart : IsOptional l.keyStart)
    (hrest : l.input.rest = Json.Writer.string text.toList ++ rest) :
    l.token? '"' (text.toList.flatMap character ++ '"' :: rest) =
      some (l.afterScalar (.scalar text .doubleQuoted)
        ⟨rest, l.input.place.after (Json.Writer.string text.toList)⟩) := by
  simp only [Json.Writer.string, List.cons_append, List.append_assoc, List.nil_append] at hrest
  have hinput := Input.drop_one hrest
  have hcolumn : (l.input.place.pass '"').column ≠ 0 := by simp [Place.pass, isBreak]
  have hread := Scalar.doubleQuoted_append htext rest hcolumn
  rw [← hinput] at hread
  have htoken := quoted?_eq .doubleQuoted hstart hread
  rw [String.ofList_toList] at htoken
  rw [token?_quote, htoken]
  rfl

/-- Whether a text is seen as some tokens wherever a flow collection may begin. -/
def Flows (text : List Char) (tokens : List Token) : Prop :=
  ∀ (l : Lexer) (rest : List Char), l.IsReady → l.input.rest = text ++ rest →
    ∃ l', l.Adds tokens l' ∧ l'.input.rest = rest ∧ l'.depth = l.depth

theorem depth_fresh (l : Lexer) : l.fresh.depth = l.depth :=
  List.length_map _

/-- A string is a scalar. -/
theorem IsReady.adds_string (h : l.IsReady) {text : String}
    (htext : ∀ c ∈ text.toList, IsPortable c) {rest : List Char}
    (hrest : l.input.rest = Json.Writer.string text.toList ++ rest) :
    l.Adds [.scalar text .doubleQuoted] (l.fresh.afterScalar (.scalar text .doubleQuoted)
        ⟨rest, l.input.place.after (Json.Writer.string text.toList)⟩) := by
  have htoken := token?_string htext h.isLax.fresh.here hrest
  simp only [Json.Writer.string, List.cons_append, List.append_assoc, List.nil_append] at hrest
  refine ⟨h.leads hrest ?_ htoken ?_, rfl, rfl, rfl, h.fresh.saved.here, h.fresh.saved.outer⟩
  · exact isSolid_cons (by decide)
  · simp only [afterScalar, List.length_append, List.length_cons]
    omega

theorem flows_string {text : String} (htext : ∀ c ∈ text.toList, IsPortable c) :
    Flows (Json.Writer.string text.toList) [.scalar text .doubleQuoted] := by
  intro l rest h hrest
  exact ⟨_, h.adds_string htext hrest, rfl, depth_fresh l⟩

end Strings

section Keys

theorem opensBlock_of_inFlow (h : l.inFlow = true) (column : Nat) :
    l.opensBlock column = false := by
  rw [opensBlock, h]
  rfl

/-- A colon after a scalar. If a key may have begun before the scalar, the scalar is a key. -/
theorem IsReady.colon (h : l.IsReady) (hflow : l.inFlow = true) {rest : List Char}
    (hrest : l.input.rest = ':' :: rest) {scalar : Token} {earlier : List Token}
    (htokens : l.tokens = scalar :: earlier)
    (hcount : ∀ start ∈ l.fresh.keyStart, l.tokenCount = start.tokenCount + 1) :
    ∃ l', l.Leads l' ∧ l'.tokens = .value :: scalar ::
        ((if l.fresh.keyStart.isSome then [.key] else []) ++ earlier) ∧
      l'.indent = l.indent ∧ l'.indents = l.indents ∧ l'.IsLax ∧ l'.input.rest = rest ∧
      l'.depth = l.depth := by
  have hflow' : l.fresh.inFlow = true := (inFlow_fresh l).trans hflow
  have hsolid : IsSolid (':' :: rest) := isSolid_cons (by decide)
  have hdrop : (l.input.drop 1).rest = rest := congrArg Input.rest (Input.drop_one hrest)
  cases hstart : l.fresh.keyStart with
  | some start =>
    have hvalue := @value?_eq l.fresh _ hstart _ _ htokens (hcount start hstart)
    simp only [opensBlock_of_inFlow hflow', Bool.false_eq_true, if_false] at hvalue
    refine ⟨_, h.leads hrest hsolid ((token?_colon _ _ (.inl hflow')).trans hvalue) ?_, rfl, rfl,
      rfl, ⟨isOptional_none, h.isLax.fresh.outer⟩, hdrop, depth_fresh l⟩
    exact Nat.le_of_eq (congrArg List.length hdrop)
  | none =>
    have hvalue : l.fresh.value? =
        some { (l.fresh.drop 1).add .value with keyAllowed := false } := by
      rw [value?, hstart]
      simp only [hflow', Bool.not_true, Bool.false_and, Bool.false_eq_true, if_false, openBlock,
        opensBlock_of_inFlow hflow']
    refine ⟨_, h.leads hrest hsolid ((token?_colon _ _ (.inl hflow')).trans hvalue) ?_, ?_, rfl,
      rfl, ⟨h.isLax.fresh.here, h.isLax.fresh.outer⟩, hdrop, depth_fresh l⟩
    · exact Nat.le_of_eq (congrArg List.length hdrop)
    · exact congrArg (Token.value :: ·) htokens

theorem isUnbroken_string {text : String} (h : ∀ c ∈ text.toList, IsPortable c) :
    IsUnbroken (Json.Writer.string text.toList) := by
  intro c hc
  rw [Json.Writer.string, List.cons_append, List.mem_cons, List.mem_append, List.mem_flatMap] at hc
  rcases hc with rfl | ⟨d, hd, hc⟩ | hc
  · decide
  · exact Scalar.isUnbroken_character (h d hd) c hc
  · rw [List.mem_singleton.1 hc]
    decide

theorem keyStart_saved (hallowed : l.keyAllowed = true) (hflow : l.inFlow = true) :
    l.saved.keyStart = some ⟨l.tokenCount, l.input.place, false⟩ := by
  simp [Lexer.saved, hallowed, hflow]

/-- A key that began on the same line can still be told if it is short. -/
theorem isStale_eq {key : String} (hkey : ∀ c ∈ key.toList, IsPortable c) {start : KeyStart}
    (hplace : l.input.place = start.place.after (Json.Writer.string key.toList)) :
    l.isStale start = !decide (IsShortKey key) := by
  have hbytes : 1024 < (String.ofList (Json.Writer.string key.toList)).utf8ByteSize ↔
      ¬ IsShortKey key :=
    Nat.not_le.symm
  rw [isStale, hplace, Place.after_of_isUnbroken _ (isUnbroken_string hkey)]
  simp [hbytes]

/-- The tokens of a key and the colon after it. -/
def keyTokens (key : String) : List Token :=
  (if IsShortKey key then [.key] else []) ++ [.scalar key .doubleQuoted, .value]

/-- A key is told by the colon after it. -/
theorem adds_key (hlax : l.IsLax) (hflow : l.inFlow = true) (hallowed : l.keyAllowed = true)
    {key : String} (hkey : ∀ c ∈ key.toList, IsPortable c) {rest : List Char}
    (hrest : l.input.rest = Json.Writer.string key.toList ++ ':' :: rest) :
    ∃ l', l.Adds (keyTokens key) l' ∧ l'.input.rest = rest ∧ l'.depth = l.depth := by
  have hready : l.IsReady := ⟨hlax, .inl hflow⟩
  have hscalar := hready.adds_string hkey hrest
  have hstart : (l.fresh.afterScalar (.scalar key .doubleQuoted)
      ⟨':' :: rest, l.input.place.after (Json.Writer.string key.toList)⟩).keyStart =
        some ⟨l.tokenCount, l.input.place, false⟩ :=
    @keyStart_saved l.fresh hallowed (by rw [inFlow_fresh, hflow])
  obtain ⟨seen, hseen⟩ : ∃ seen, seen = l.fresh.afterScalar (.scalar key .doubleQuoted)
      ⟨':' :: rest, l.input.place.after (Json.Writer.string key.toList)⟩ := ⟨_, rfl⟩
  rw [← hseen] at hscalar hstart
  have hdepth : seen.depth = l.depth := by
    rw [hseen]
    exact depth_fresh l
  have hinput : seen.input =
      ⟨':' :: rest, l.input.place.after (Json.Writer.string key.toList)⟩ := by
    rw [hseen]
    rfl
  have hstale : seen.isStale ⟨l.tokenCount, l.input.place, false⟩ = !decide (IsShortKey key) :=
    isStale_eq hkey (congrArg Input.place hinput)
  have hfresh : seen.fresh.keyStart = if IsShortKey key then
      some ⟨l.tokenCount, l.input.place, false⟩ else none := by
    rw [Lexer.fresh, hstart, Option.filter_some, hstale]
    simp
  have hinside : seen.inFlow = true := inFlow_of_depth_eq hdepth hflow
  have hready' : seen.IsReady := ⟨hscalar.isLax, .inl hinside⟩
  have hcount : ∀ start ∈ seen.fresh.keyStart, seen.tokenCount = start.tokenCount + 1 := by
    intro start hmem
    rw [hfresh] at hmem
    split at hmem
    · rw [← Option.some.inj hmem, hseen]
      rfl
    · contradiction
  obtain ⟨l', hleads, htokens, hindent, hindents, hlax', hrest', hdepth'⟩ :=
    hready'.colon hinside (congrArg Input.rest hinput) hscalar.tokens hcount
  refine ⟨l', ⟨hscalar.leads.trans hleads, ?_, hindent.trans hscalar.indent,
    hindents.trans hscalar.indents, hlax'⟩, hrest', hdepth'.trans hdepth⟩
  rw [htokens, hfresh, keyTokens]
  split
  · rfl
  · rfl

end Keys

section Collections

theorem openFlow?_eq (h : IsOptional l.keyStart) (token : Token) : l.openFlow? token = some
    { (l.saved.drop 1).add token with
      keyAllowed := true
      keyStart := none
      outerKeyStarts := l.saved.keyStart :: l.outerKeyStarts } := by
  rw [openFlow?, saveKeyStart?_eq h]
  rfl

theorem flowEntry_eq (h : IsOptional l.keyStart) : l.flowEntry? = some
    { (({ l with keyStart := none } : Lexer).drop 1).add .flowEntry with keyAllowed := true } := by
  unfold flowEntry?
  rw [removeKeyStart?_eq h]
  rfl

theorem closeFlow?_eq (h : IsOptional l.keyStart) (token : Token) {start : Option KeyStart}
    {outer : List (Option KeyStart)} (houter : l.outerKeyStarts = start :: outer) :
    l.closeFlow? token = some
      { (l.drop 1).add token with
        keyAllowed := false
        keyStart := start
        outerKeyStarts := outer } := by
  rw [closeFlow?, removeKeyStart?_eq h, Option.bind_eq_bind, Option.bind_some]
  simp only [houter]
  rfl

/-- Whether a text is seen as some tokens wherever a key may begin in a flow collection. -/
def IsPart (text : List Char) (tokens : List Token) : Prop :=
  ∀ (l : Lexer) (rest : List Char), l.IsLax → l.inFlow = true → l.keyAllowed = true →
    l.input.rest = text ++ rest →
      ∃ l', l.Adds tokens l' ∧ l'.input.rest = rest ∧ l'.depth = l.depth

theorem Flows.isPart {text : List Char} {tokens : List Token} (h : Flows text tokens) :
    IsPart text tokens := by
  intro l rest hlax hflow _ hrest
  exact h l rest ⟨hlax, .inl hflow⟩ hrest

/-- A key with its value. -/
theorem isPart_member {key : String} (hkey : ∀ c ∈ key.toList, IsPortable c) {text : List Char}
    {tokens : List Token} (hvalue : Flows text tokens) :
    IsPart (Json.Writer.string key.toList ++ ':' :: text) (keyTokens key ++ tokens) := by
  intro l rest hlax hflow hallowed hrest
  rw [List.append_assoc, List.cons_append] at hrest
  obtain ⟨middle, hadds, hrest', hdepth⟩ := adds_key hlax hflow hallowed hkey hrest
  have hflow' : middle.inFlow = true := inFlow_of_depth_eq hdepth hflow
  obtain ⟨l', hadds', hrest'', hdepth'⟩ := hvalue middle rest ⟨hadds.isLax, .inl hflow'⟩ hrest'
  exact ⟨l', hadds.trans hadds', hrest'', hdepth'.trans hdepth⟩

/-- A comma between two parts. -/
theorem adds_comma (hlax : l.IsLax) (hflow : l.inFlow = true) {rest : List Char}
    (hrest : l.input.rest = ',' :: rest) :
    ∃ l', l.Adds [.flowEntry] l' ∧ l'.input.rest = rest ∧ l'.depth = l.depth ∧
      l'.keyAllowed = true := by
  have hready : l.IsReady := ⟨hlax, .inl hflow⟩
  have hdrop : (l.input.drop 1).rest = rest := congrArg Input.rest (Input.drop_one hrest)
  refine ⟨_, ⟨hready.leads hrest (isSolid_cons (by decide))
    ((token?_comma _ _).trans (flowEntry_eq hlax.fresh.here)) ?_, rfl, rfl, rfl,
    isOptional_none, hlax.fresh.outer⟩, hdrop, depth_fresh l, rfl⟩
  exact Nat.le_of_eq (congrArg List.length hdrop)

/-- Parts that are separated by commas. -/
theorem adds_parts (parts : List (List Char × List Token))
    (hparts : ∀ part ∈ parts, IsPart part.1 part.2) (hlax : l.IsLax) (hflow : l.inFlow = true)
    (hallowed : l.keyAllowed = true) {rest : List Char}
    (hrest : l.input.rest = [','].intercalate (parts.map (·.1)) ++ rest) :
    ∃ l', l.Adds ([.flowEntry].intercalate (parts.map (·.2))) l' ∧ l'.input.rest = rest ∧
      l'.depth = l.depth := by
  induction parts generalizing l with
  | nil => exact ⟨l, .refl hlax, hrest, rfl⟩
  | cons part parts ih =>
    have hpart := hparts part List.mem_cons_self
    cases parts with
    | nil =>
      simp only [List.map_cons, List.map_nil, List.intercalate_singleton] at hrest ⊢
      exact hpart l rest hlax hflow hallowed hrest
    | cons next parts =>
      simp only [List.map_cons, List.intercalate_cons_cons, List.append_assoc, List.cons_append,
        List.nil_append] at hrest ⊢
      obtain ⟨before, hadds, hcomma, hdepth⟩ := hpart l _ hlax hflow hallowed hrest
      have hflow' : before.inFlow = true := inFlow_of_depth_eq hdepth hflow
      obtain ⟨after, hadds', hrest', hdepth', hallowed'⟩ := adds_comma hadds.isLax hflow' hcomma
      have hflow'' : after.inFlow = true := inFlow_of_depth_eq hdepth' hflow'
      obtain ⟨l', hadds'', hrest'', hdepth''⟩ := ih
        (fun part hmem => hparts part (List.mem_cons_of_mem _ hmem)) hadds'.isLax hflow'' hallowed'
        hrest'
      exact ⟨l', hadds.trans (hadds'.trans hadds''), hrest'',
        hdepth''.trans (hdepth'.trans hdepth)⟩

/-- The signs that open and close a collection, and their tokens. -/
inductive Encloses : Char → Char → Token → Token → Prop where
  | sequence : Encloses '[' ']' .flowSequenceStart .flowSequenceEnd
  | mapping : Encloses '\x7b' '\x7d' .flowMappingStart .flowMappingEnd

section Encloses

variable {start stop : Char} {startToken stopToken : Token}

theorem Encloses.token?_start (h : Encloses start stop startToken stopToken) (l : Lexer)
    (rest : List Char) : l.token? start rest = l.openFlow? startToken := by
  cases h with
  | sequence => exact token?_bracket l rest
  | mapping => exact token?_brace l rest

theorem Encloses.token?_stop (h : Encloses start stop startToken stopToken) (l : Lexer)
    (rest : List Char) : l.token? stop rest = l.closeFlow? stopToken := by
  cases h with
  | sequence => exact token?_closingBracket l rest
  | mapping => exact token?_closingBrace l rest

theorem Encloses.isSolid (h : Encloses start stop startToken stopToken) (rest : List Char) :
    IsSolid (start :: rest) ∧ IsSolid (stop :: rest) := by
  cases h with
  | sequence | mapping => exact ⟨isSolid_cons (by decide), isSolid_cons (by decide)⟩

theorem Encloses.opens (h : Encloses start stop startToken stopToken) (hready : l.IsReady)
    {rest : List Char} (hrest : l.input.rest = start :: rest) :
    ∃ l', l.Adds [startToken] l' ∧ l'.input.rest = rest ∧ l'.depth = l.depth + 1 ∧
      l'.keyAllowed = true := by
  have hdrop : (l.input.drop 1).rest = rest := congrArg Input.rest (Input.drop_one hrest)
  have hsaved := hready.fresh.saved
  refine ⟨_, ⟨hready.leads hrest (h.isSolid rest).1
    ((h.token?_start _ rest).trans (openFlow?_eq hready.fresh.isLax.here startToken)) ?_, rfl, rfl,
    rfl, isOptional_none, List.forall_mem_cons.2 ⟨hsaved.here, hsaved.outer⟩⟩, hdrop,
    congrArg (· + 1) (depth_fresh l), rfl⟩
  exact Nat.le_of_eq (congrArg List.length hdrop)

theorem Encloses.closes (h : Encloses start stop startToken stopToken) (hlax : l.IsLax)
    {depth : Nat} (hdepth : l.depth = depth + 1) {rest : List Char}
    (hrest : l.input.rest = stop :: rest) :
    ∃ l', l.Adds [stopToken] l' ∧ l'.input.rest = rest ∧ l'.depth = depth := by
  have hflow : l.inFlow = true := by simp [inFlow_eq, hdepth]
  have hready : l.IsReady := ⟨hlax, .inl hflow⟩
  have hdrop : (l.input.drop 1).rest = rest := congrArg Input.rest (Input.drop_one hrest)
  rw [← depth_fresh] at hdepth
  obtain ⟨start, outer, houter⟩ := List.exists_cons_of_length_eq_add_one hdepth
  have hlax' : IsOptional start ∧ ∀ start ∈ outer, IsOptional start := by
    rw [← List.forall_mem_cons, ← houter]
    exact hlax.fresh.outer
  refine ⟨_, ⟨hready.leads hrest (h.isSolid rest).2
    ((h.token?_stop _ rest).trans (closeFlow?_eq hlax.fresh.here stopToken houter)) ?_, rfl, rfl,
    rfl, hlax'.1, hlax'.2⟩, hdrop, ?_⟩
  · exact Nat.le_of_eq (congrArg List.length hdrop)
  · rw [Lexer.depth, houter] at hdepth
    exact Nat.succ.inj hdepth

/-- A collection of parts. -/
theorem Encloses.flows (h : Encloses start stop startToken stopToken)
    {parts : List (List Char × List Token)} (hparts : ∀ part ∈ parts, IsPart part.1 part.2) :
    Flows (start :: ([','].intercalate (parts.map (·.1)) ++ [stop]))
      (startToken :: ([.flowEntry].intercalate (parts.map (·.2)) ++ [stopToken])) := by
  intro l rest hready hrest
  rw [List.cons_append, List.append_assoc] at hrest
  obtain ⟨before, hopen, hparts', hdepth, hallowed⟩ := h.opens hready hrest
  have hflow : before.inFlow = true := by simp [inFlow_eq, hdepth]
  obtain ⟨after, hadds, hstop, hdepth'⟩ :=
    adds_parts parts hparts hopen.isLax hflow hallowed hparts'
  obtain ⟨l', hclose, hrest', hdepth''⟩ := h.closes hadds.isLax (hdepth'.trans hdepth) hstop
  exact ⟨l', hopen.trans (hadds.trans hclose), hrest', hdepth''⟩

end Encloses

end Collections

end Lexer

end Inflection.Yaml
