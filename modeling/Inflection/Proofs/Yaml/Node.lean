import Inflection.Yaml.Node

/-!
Nodes that are read from their tokens. Scalars are read as they are, and a
collection, in flow or in block style, is read if its parts are. A flow mapping of
which a key is not told as such is refused.
-/

namespace Inflection.Yaml.Node

/-- Whether a node can begin with a token. -/
def opensNode : Token → Bool
  | .scalar .. | .flowSequenceStart | .flowMappingStart | .blockSequenceStart
  | .blockMappingStart => true
  | _ => false

/-- Whether tokens are read as a node if they are valid, and else refused, whatever follows them.
The number of steps that this takes is bounded by the number of tokens. -/
structure ReadsAs (inBlock : Bool) (tokens : List Token) (valid : Bool) (result : Node) : Prop where
  opens : ∃ first more, tokens = first :: more ∧ opensNode first = true
  reads : ∀ handles steps inMapping rest, tokens.length ≤ steps →
    node handles steps inBlock inMapping (tokens ++ rest) =
      if valid then some (result, rest) else none

theorem readsAs_scalar (inBlock : Bool) (text : String) (style : ScalarStyle) :
    ReadsAs inBlock [.scalar text style] true (.scalar none none style text) where
  opens := ⟨_, _, rfl, rfl⟩
  reads handles steps inMapping rest hsteps := by
    obtain ⟨steps, rfl⟩ := Nat.exists_eq_add_one_of_ne_zero (Nat.ne_zero_of_lt hsteps)
    rfl

/-- Tokens that are read as a node do not begin with any other token. -/
theorem ReadsAs.append_ne {inBlock valid : Bool} {tokens rest more : List Token} {result : Node}
    (h : ReadsAs inBlock tokens valid result) {token : Token} (htoken : opensNode token = false) :
    tokens ++ rest ≠ token :: more := by
  obtain ⟨first, others, htokens, hopens⟩ := h.opens
  intro heq
  rw [htokens] at heq
  rw [(List.cons.inj heq).1, htoken] at hopens
  contradiction

theorem ReadsAs.head?_append_ne {inBlock valid : Bool} {tokens rest : List Token} {result : Node}
    (h : ReadsAs inBlock tokens valid result) {token : Token} (htoken : opensNode token = false) :
    (tokens ++ rest).head? ≠ some token := by
  intro hhead
  obtain ⟨more, hmore⟩ := List.head?_eq_some_iff.1 hhead
  exact h.append_ne htoken hmore

/-- Parts of which each but the first follows a separator. -/
theorem intercalate_cons {β : Type} (separator : β) (first : List β) (others : List (List β)) :
    [separator].intercalate (first :: others) =
      first ++ others.flatMap fun other => separator :: other := by
  induction others generalizing first with
  | nil => simp
  | cons second others ih => simp [ih]

variable {α : Type} {list : List α} {tokens : α → List Token} {valid : α → Bool}
  {result : α → Node} {handles : Handles} {steps : Nat} {rest : List Token}

theorem ReadsAs.length_pos {inBlock valid : Bool} {tokens : List Token} {result : Node}
    (h : ReadsAs inBlock tokens valid result) : 0 < tokens.length := by
  obtain ⟨first, more, rfl, -⟩ := h.opens
  exact Nat.succ_pos _

section Flow

theorem flowItems_later (h : ∀ a ∈ list, ReadsAs false (tokens a) (valid a) (result a))
    (hpos : 0 < steps) (hsteps : (list.flatMap fun a => .flowEntry :: tokens a).length ≤ steps) :
    flowItems handles steps false
        ((list.flatMap fun a => .flowEntry :: tokens a) ++ .flowSequenceEnd :: rest) =
      if list.all valid then some (list.map result, rest) else none := by
  induction list generalizing steps with
  | nil =>
    obtain ⟨steps, rfl⟩ := Nat.exists_eq_add_one_of_ne_zero (Nat.ne_zero_of_lt hpos)
    rfl
  | cons a list ih =>
    obtain ⟨steps, rfl⟩ := Nat.exists_eq_add_one_of_ne_zero (Nat.ne_zero_of_lt hpos)
    have ha := h a List.mem_cons_self
    have hlength := ha.length_pos
    rw [List.flatMap_cons, List.length_append, List.length_cons] at hsteps
    have hothers := @ih steps (fun b hb => h b (List.mem_cons_of_mem a hb)) (by omega) (by omega)
    have hread := ha.reads handles steps false
      ((list.flatMap fun a => .flowEntry :: tokens a) ++ .flowSequenceEnd :: rest) (by omega)
    rw [List.flatMap_cons, List.append_assoc, List.cons_append, flowItems]
    · cases hvalid : valid a with
      | false => simp [hread, hvalid]
      | true =>
        cases hall : list.all valid with
        | false => simp [hread, hothers, hvalid, hall]
        | true => simp [hread, hothers, hvalid, hall]
    · intro more
      exact ha.append_ne rfl

/-- The first item is read like an item after a separator. -/
theorem flowItems_first {item more : List Token} {isValid : Bool} {node : Node}
    (h : ReadsAs false item isValid node) : flowItems handles (steps + 1) true (item ++ more) =
      flowItems handles (steps + 1) false (.flowEntry :: (item ++ more)) := by
  rw [flowItems, flowItems]
  · rfl
  all_goals
    intro more
    exact h.append_ne rfl

/-- The tokens of a flow sequence. -/
def flowSequence (items : List (List Token)) : List Token :=
  .flowSequenceStart :: ([.flowEntry].intercalate items ++ [.flowSequenceEnd])

theorem readsAs_flowSequence (inBlock : Bool)
    (h : ∀ a ∈ list, ReadsAs false (tokens a) (valid a) (result a)) :
    ReadsAs inBlock (flowSequence (list.map tokens)) (list.all valid)
      (.sequence none (list.map result)) where
  opens := ⟨_, _, rfl, rfl⟩
  reads handles steps inMapping rest hsteps := by
    obtain ⟨steps, rfl⟩ := Nat.exists_eq_add_one_of_ne_zero (Nat.ne_zero_of_lt hsteps)
    have hitems : flowItems handles steps true
        ([.flowEntry].intercalate (list.map tokens) ++ .flowSequenceEnd :: rest) =
          if list.all valid then some (list.map result, rest) else none := by
      rw [flowSequence, List.length_cons, List.length_append, List.length_singleton] at hsteps
      obtain ⟨steps, rfl⟩ := Nat.exists_eq_add_one_of_ne_zero (show steps ≠ 0 by omega)
      cases list with
      | nil => rfl
      | cons a list =>
        have hlater := @flowItems_later _ (a :: list) tokens valid result handles (steps + 1) rest h
          (Nat.succ_pos steps)
        rw [List.flatMap_cons, List.cons_append, List.cons_append, List.append_assoc] at hlater
        rw [List.map_cons, intercalate_cons, List.flatMap_map] at hsteps ⊢
        rw [List.append_assoc, flowItems_first (h a List.mem_cons_self)]
        apply hlater
        rw [List.length_cons]
        omega
    rw [flowSequence, List.cons_append, List.append_assoc, node]
    · simp only [properties, fullTag?, Option.bind_eq_bind, Option.bind_some, List.cons_append,
        List.nil_append, hitems]
      cases list.all valid with
      | false => rfl
      | true => rfl
    · nofun

/-- The tokens of a pair: what tells its key, if this is told, the key and the value. -/
def pair (told : Bool) (key : String) (style : ScalarStyle) (value : List Token) : List Token :=
  (if told then [.key] else []) ++ .scalar key style :: .value :: value

variable {told isValid : Bool} {key : String} {style : ScalarStyle} {value more : List Token}
  {node : Node}

theorem node_scalar (inBlock inMapping : Bool) : Node.node handles (steps + 1) inBlock inMapping
    (.scalar key style :: rest) = some (.scalar none none style key, rest) :=
  rfl

theorem flowPair_told (h : ReadsAs false value isValid node) (hsteps : value.length + 1 < steps) :
    flowPair handles steps (pair true key style value ++ rest) =
      if isValid then some ((.scalar none none style key, node), rest) else none := by
  obtain ⟨steps, rfl⟩ := Nat.exists_eq_add_one_of_ne_zero (Nat.ne_zero_of_lt hsteps)
  obtain ⟨steps, rfl⟩ := Nat.exists_eq_add_one_of_ne_zero (show steps ≠ 0 by omega)
  have hread := h.reads handles (steps + 1) false rest (by omega)
  have hentry : (value ++ rest).head? ≠ some .flowEntry := h.head?_append_ne rfl
  have hend : (value ++ rest).head? ≠ some .flowMappingEnd := h.head?_append_ne rfl
  simp only [pair, if_true, List.cons_append, List.nil_append, flowPair, endsFlowPart, node_scalar,
    reduceCtorEq, decide_false, Bool.or_self, Bool.false_eq_true, if_false, Option.bind_eq_bind,
    Option.bind_some, hentry, hend, hread]
  cases isValid with
  | false => rfl
  | true => rfl

/-- A key that is not told is read as a key without a value. -/
theorem flowPair_untold (hsteps : 1 < steps) :
    flowPair handles steps (pair false key style value ++ rest) =
      some ((.scalar none none style key, missing), .value :: (value ++ rest)) := by
  obtain ⟨steps, rfl⟩ := Nat.exists_eq_add_one_of_ne_zero (Nat.ne_zero_of_lt hsteps)
  obtain ⟨steps, rfl⟩ := Nat.exists_eq_add_one_of_ne_zero (show steps ≠ 0 by omega)
  rfl

/-- A pair begins with what tells its key or with the key. -/
theorem pair_append_ne {token : Token} (hkey : token ≠ .key) (htoken : opensNode token = false) :
    pair told key style value ++ rest ≠ token :: more := by
  intro heq
  cases told with
  | false =>
    rw [← (List.cons.inj heq).1] at htoken
    contradiction
  | true => exact hkey (List.cons.inj heq).1.symm

theorem length_pair : (pair told key style value).length =
    (if told then 1 else 0) + 2 + value.length := by
  cases told with
  | false => simp only [pair, Bool.false_eq_true, if_false, List.nil_append, List.length_cons,
      Nat.add_comm, Nat.add_left_comm]
  | true => simp only [pair, if_true, List.cons_append, List.nil_append, List.length_cons,
      Nat.add_comm, Nat.add_left_comm]

variable {told : α → Bool} {key : α → String}

/-- Pairs of a flow mapping are read if each key is told. -/
theorem flowPairs_later (h : ∀ a ∈ list, ReadsAs false (tokens a) (valid a) (result a))
    (hpos : 0 < steps)
    (hsteps : (list.flatMap fun a => .flowEntry :: pair (told a) (key a) style (tokens a)).length ≤
      steps) :
    flowPairs handles steps false
        ((list.flatMap fun a => .flowEntry :: pair (told a) (key a) style (tokens a)) ++
          .flowMappingEnd :: rest) =
      if list.all fun a => told a && valid a then
        some (list.map fun a => (.scalar none none style (key a), result a), rest)
      else none := by
  induction list generalizing steps with
  | nil =>
    obtain ⟨steps, rfl⟩ := Nat.exists_eq_add_one_of_ne_zero (Nat.ne_zero_of_lt hpos)
    rfl
  | cons a list ih =>
    obtain ⟨steps, rfl⟩ := Nat.exists_eq_add_one_of_ne_zero (Nat.ne_zero_of_lt hpos)
    have ha := h a List.mem_cons_self
    have hlength := ha.length_pos
    rw [List.flatMap_cons, List.length_append, List.length_cons, length_pair] at hsteps
    have hothers := @ih steps (fun b hb => h b (List.mem_cons_of_mem a hb)) (by omega) (by omega)
    rw [List.flatMap_cons, List.append_assoc, List.cons_append, flowPairs]
    · cases htold : told a with
      | false =>
        obtain ⟨steps, rfl⟩ := Nat.exists_eq_add_one_of_ne_zero (show steps ≠ 0 by omega)
        simp [flowPair_untold (show 1 < steps + 1 by omega), flowPairs, htold]
      | true =>
        rw [htold, if_pos rfl] at hsteps
        have hread rest : flowPair handles steps (pair true (key a) style (tokens a) ++ rest) =
            if valid a then some ((.scalar none none style (key a), result a), rest) else none :=
          flowPair_told ha (by omega)
        cases hvalid : valid a with
        | false => simp [hread, hvalid]
        | true =>
          cases hall : list.all fun a => told a && valid a with
          | false => simp [hread, hothers, hvalid, hall, htold]
          | true => simp [hread, hothers, hvalid, hall, htold]
    · intro more
      exact pair_append_ne nofun rfl

/-- The first pair is read like a pair after a separator. -/
theorem flowPairs_first (told : Bool) (key : String) (value : List Token) :
    flowPairs handles (steps + 1) true (pair told key style value ++ rest) =
      flowPairs handles (steps + 1) false (.flowEntry :: (pair told key style value ++ rest)) := by
  rw [flowPairs, flowPairs]
  · rfl
  all_goals
    intro more
    exact pair_append_ne nofun rfl

/-- The tokens of a flow mapping. -/
def flowMapping (pairs : List (List Token)) : List Token :=
  .flowMappingStart :: ([.flowEntry].intercalate pairs ++ [.flowMappingEnd])

theorem readsAs_flowMapping (inBlock : Bool)
    (h : ∀ a ∈ list, ReadsAs false (tokens a) (valid a) (result a)) :
    ReadsAs inBlock (flowMapping (list.map fun a => pair (told a) (key a) style (tokens a)))
      (list.all fun a => told a && valid a)
      (.mapping none (list.map fun a => (.scalar none none style (key a), result a))) where
  opens := ⟨_, _, rfl, rfl⟩
  reads handles steps inMapping rest hsteps := by
    obtain ⟨steps, rfl⟩ := Nat.exists_eq_add_one_of_ne_zero (Nat.ne_zero_of_lt hsteps)
    have hpairs : flowPairs handles steps true
        ([.flowEntry].intercalate (list.map fun a => pair (told a) (key a) style (tokens a)) ++
          .flowMappingEnd :: rest) =
          if list.all fun a => told a && valid a then
            some (list.map fun a => (.scalar none none style (key a), result a), rest)
          else none := by
      rw [flowMapping, List.length_cons, List.length_append, List.length_singleton] at hsteps
      obtain ⟨steps, rfl⟩ := Nat.exists_eq_add_one_of_ne_zero (show steps ≠ 0 by omega)
      cases list with
      | nil => rfl
      | cons a list =>
        have hlater := @flowPairs_later _ (a :: list) tokens valid result handles (steps + 1) rest
          style told key h (Nat.succ_pos steps)
        rw [List.flatMap_cons, List.cons_append, List.cons_append, List.append_assoc] at hlater
        rw [List.map_cons, intercalate_cons, List.flatMap_map] at hsteps ⊢
        rw [List.append_assoc, flowPairs_first]
        apply hlater
        rw [List.length_cons]
        omega
    rw [flowMapping, List.cons_append, List.append_assoc, node]
    · simp only [properties, fullTag?, Option.bind_eq_bind, Option.bind_some, List.cons_append,
        List.nil_append, hpairs]
      cases list.all fun a => told a && valid a with
      | false => rfl
      | true => rfl
    · nofun

end Flow

section Block

variable {inBlock isValid : Bool} {value : List Token} {root : Node}

theorem ReadsAs.endsBlockItem_eq (h : ReadsAs inBlock value isValid root) :
    endsBlockItem (value ++ rest) = false := by
  obtain ⟨first, more, rfl, hopens⟩ := h.opens
  cases first <;> first | rfl | contradiction

theorem ReadsAs.endsBlockPart_eq (h : ReadsAs inBlock value isValid root) :
    endsBlockPart (value ++ rest) = false := by
  obtain ⟨first, more, rfl, hopens⟩ := h.opens
  cases first <;> first | rfl | contradiction

/-- The tokens of an indented block sequence. -/
def blockSequence (items : List (List Token)) : List Token :=
  .blockSequenceStart :: (items.flatMap (.blockEntry :: ·) ++ [.blockEnd])

theorem blockItems_append (h : ∀ a ∈ list, ReadsAs true (tokens a) true (result a))
    (hpos : 0 < steps) (hsteps : (list.flatMap fun a => .blockEntry :: tokens a).length ≤ steps) :
    blockItems handles steps
        ((list.flatMap fun a => .blockEntry :: tokens a) ++ .blockEnd :: rest) =
      some (list.map result, .blockEnd :: rest) := by
  induction list generalizing steps with
  | nil =>
    obtain ⟨steps, rfl⟩ := Nat.exists_eq_add_one_of_ne_zero (Nat.ne_zero_of_lt hpos)
    rfl
  | cons a list ih =>
    obtain ⟨steps, rfl⟩ := Nat.exists_eq_add_one_of_ne_zero (Nat.ne_zero_of_lt hpos)
    have ha := h a List.mem_cons_self
    have hlength := ha.length_pos
    rw [List.flatMap_cons, List.length_append, List.length_cons] at hsteps
    have hothers := @ih steps (fun b hb => h b (List.mem_cons_of_mem a hb)) (by omega) (by omega)
    have hread := ha.reads handles steps false
      ((list.flatMap fun a => .blockEntry :: tokens a) ++ .blockEnd :: rest) (by omega)
    rw [List.flatMap_cons, List.append_assoc, List.cons_append, blockItems, ha.endsBlockItem_eq]
    simp [hread, hothers]

theorem readsAs_blockSequence (h : ∀ a ∈ list, ReadsAs true (tokens a) true (result a)) :
    ReadsAs true (blockSequence (list.map tokens)) true (.sequence none (list.map result)) where
  opens := ⟨_, _, rfl, rfl⟩
  reads handles steps inMapping rest hsteps := by
    obtain ⟨steps, rfl⟩ := Nat.exists_eq_add_one_of_ne_zero (Nat.ne_zero_of_lt hsteps)
    rw [blockSequence, List.flatMap_map, List.length_cons, List.length_append,
      List.length_singleton] at hsteps
    have hitems := @blockItems_append _ list tokens result handles steps rest h (by omega)
      (by omega)
    rw [blockSequence, List.flatMap_map, List.cons_append, List.append_assoc, node]
    · simp [properties, fullTag?, hitems]
    · nofun

/-- The tokens of a block mapping. -/
def blockMapping (pairs : List (List Token)) : List Token :=
  .blockMappingStart :: (pairs.flatten ++ [.blockEnd])

variable {key : α → String} {style : ScalarStyle}

theorem blockPairs_append (h : ∀ a ∈ list, ReadsAs true (tokens a) true (result a))
    (hpos : 0 < steps)
    (hsteps : (list.flatMap fun a => pair true (key a) style (tokens a)).length < steps) :
    blockPairs handles steps
        ((list.flatMap fun a => pair true (key a) style (tokens a)) ++ .blockEnd :: rest) =
      some (list.map fun a => (.scalar none none style (key a), result a), rest) := by
  induction list generalizing steps with
  | nil =>
    obtain ⟨steps, rfl⟩ := Nat.exists_eq_add_one_of_ne_zero (Nat.ne_zero_of_lt hpos)
    rfl
  | cons a list ih =>
    obtain ⟨steps, rfl⟩ := Nat.exists_eq_add_one_of_ne_zero (Nat.ne_zero_of_lt hpos)
    have ha := h a List.mem_cons_self
    have hlength := ha.length_pos
    rw [List.flatMap_cons, List.length_append, length_pair] at hsteps
    obtain ⟨steps, rfl⟩ := Nat.exists_eq_add_one_of_ne_zero (show steps ≠ 0 by omega)
    have hothers := @ih (steps + 1) (fun b hb => h b (List.mem_cons_of_mem a hb)) (by omega)
      (by omega)
    have hread := ha.reads handles (steps + 1) true
      ((list.flatMap fun a => pair true (key a) style (tokens a)) ++ .blockEnd :: rest) (by omega)
    have hkey : endsBlockPart (.scalar (key a) style :: .value :: (tokens a ++
        ((list.flatMap fun a => pair true (key a) style (tokens a)) ++ .blockEnd :: rest))) =
          false := rfl
    rw [List.flatMap_cons, List.append_assoc, pair, if_pos rfl, List.singleton_append,
      List.cons_append, List.cons_append, List.cons_append, blockPairs]
    simp only [hkey, node_scalar, ha.endsBlockPart_eq, hread, hothers, if_true, Bool.false_eq_true,
      if_false, Option.bind_eq_bind, Option.bind_some]
    rfl

theorem readsAs_blockMapping (h : ∀ a ∈ list, ReadsAs true (tokens a) true (result a)) :
    ReadsAs true (blockMapping (list.map fun a => pair true (key a) style (tokens a))) true
      (.mapping none (list.map fun a => (.scalar none none style (key a), result a))) where
  opens := ⟨_, _, rfl, rfl⟩
  reads handles steps inMapping rest hsteps := by
    obtain ⟨steps, rfl⟩ := Nat.exists_eq_add_one_of_ne_zero (Nat.ne_zero_of_lt hsteps)
    rw [blockMapping, ← List.flatMap_def, List.length_cons, List.length_append,
      List.length_singleton] at hsteps
    have hpairs := @blockPairs_append _ list tokens result handles steps rest key style h (by omega)
      (by omega)
    rw [blockMapping, ← List.flatMap_def, List.cons_append, List.append_assoc, node]
    · simp [properties, fullTag?, hpairs]
    · nofun

end Block

section Document

theorem directives_of_opensNode {tokens : List Token} {first : Token} {more : List Token}
    (htokens : tokens = first :: more) (h : opensNode first = true) :
    directives false [] tokens = some ([], tokens) := by
  rw [htokens]
  cases first <;> first | rfl | contradiction

/-- The tokens of one node are a document. -/
theorem ReadsAs.ofTokens?_eq {tokens : List Token} {isValid : Bool} {root : Node}
    (h : ReadsAs true tokens isValid root) :
    ofTokens? tokens = if isValid then some (some root) else none := by
  obtain ⟨first, more, htokens, hopens⟩ := h.opens
  have hread := h.reads commonHandles (2 * tokens.length + 2) false [] (by omega)
  rw [List.append_nil] at hread
  have hmark (rest : List Token) : tokens ≠ .documentStart :: rest := by
    intro heq
    rw [← List.append_nil tokens] at heq
    exact h.append_ne rfl heq
  have hempty : tokens.isEmpty = false := by rw [htokens, List.isEmpty_cons]
  rw [ofTokens?, hempty]
  simp only [Bool.false_eq_true, if_false, directives_of_opensNode htokens hopens,
    Option.bind_eq_bind, Option.bind_some, List.nil_append, Nat.lt_irrefl, hread]
  cases isValid with
  | false => rfl
  | true => rfl

end Document

end Inflection.Yaml.Node
