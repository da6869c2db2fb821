import Inflection.Proofs.Yaml.Document
import Inflection.Proofs.Yaml.Flow
import Inflection.Proofs.Yaml.Node

/-!
JSON texts as YAML documents. The text of a value that is made of strings, arrays and
records is the text of one flow node with the same parts, if all keys are short.
-/

namespace Inflection.Yaml

open Json (Value)
open Json.Reader (elementsOf_eq membersOf_eq memberText)

/-- Whether the text of a JSON value is seen as some tokens, which are read as a node if they are
valid, and what tree this node stands for. -/
structure FlowText (value : Value) (tokens : List Token) (isValid : Bool) (node : Node)
    (tree : Tree) : Prop where
  isStream : IsStream (Json.Writer.value value)
  flows : Lexer.Flows (Json.Writer.value value) tokens
  readsAs : ∀ inBlock, Node.ReadsAs inBlock tokens isValid node
  standsFor : node.StandsFor tree

theorem isStream_string {text : String} (htext : ∀ c ∈ text.toList, IsPortable c) :
    IsStream (Json.Writer.string text.toList) := by
  have hquote : IsStream ['"'] := by decide
  have hcharacters : IsStream (text.toList.flatMap Json.Writer.character) :=
    isStream_flatMap fun c hc => Scalar.isStream_character (htext c hc)
  exact hquote.append (hcharacters.append hquote)

theorem flowText_string {text : String} (htext : ∀ c ∈ text.toList, IsPortable c) :
    FlowText (.string (some text)) [.scalar text .doubleQuoted] true
      (.scalar none none .doubleQuoted text) (.scalar none .doubleQuoted text) where
  isStream := isStream_string htext
  flows := Lexer.flows_string htext
  readsAs inBlock := Node.readsAs_scalar inBlock text .doubleQuoted
  standsFor := Node.standsFor_scalar text .doubleQuoted

section Collections

variable {α : Type} {list : List α} {value : α → Value} {tokens : α → List Token}
  {isValid : α → Bool} {node : α → Node} {tree : α → Tree}

theorem flowText_array
    (h : ∀ a ∈ list, FlowText (value a) (tokens a) (isValid a) (node a) (tree a)) :
    FlowText (.array (list.map value)) (Node.flowSequence (list.map tokens)) (list.all isValid)
      (.sequence none (list.map node)) (.sequence (list.map tree)) where
  isStream := by
    have hstream : IsStream ([','].intercalate ((list.map value).map Json.Writer.value)) := by
      apply isStream_intercalate
      rw [List.map_map, List.forall_mem_map]
      intro a ha
      exact (h a ha).isStream
    rw [Json.Writer.value, elementsOf_eq]
    exact (hstream.cons (by decide)).append (by decide : IsStream [']'])
  flows := by
    have hflows := @Lexer.Encloses.flows _ _ _ _ .sequence
      (list.map fun a => (Json.Writer.value (value a), tokens a))
      (List.forall_mem_map.2 fun a ha => (h a ha).flows.isPart)
    rw [List.map_map, List.map_map] at hflows
    rw [Json.Writer.value, elementsOf_eq, List.map_map]
    exact hflows
  readsAs inBlock := Node.readsAs_flowSequence inBlock fun a ha => (h a ha).readsAs false
  standsFor := Node.standsFor_sequence fun a ha => (h a ha).standsFor

variable {key : α → String}

theorem keyTokens_append (key : String) (tokens : List Token) : Lexer.keyTokens key ++ tokens =
    Node.pair (decide (IsShortKey key)) key .doubleQuoted tokens := by
  rw [Lexer.keyTokens, Node.pair, List.append_assoc]
  simp

theorem flowText_record (hkey : ∀ a ∈ list, ∀ c ∈ (key a).toList, IsPortable c)
    (h : ∀ a ∈ list, FlowText (value a) (tokens a) (isValid a) (node a) (tree a)) :
    FlowText (.record (list.map fun a => (key a, value a)))
      (Node.flowMapping
        (list.map fun a =>
          Node.pair (decide (IsShortKey (key a))) (key a) .doubleQuoted (tokens a)))
      (list.all fun a => decide (IsShortKey (key a)) && isValid a)
      (.mapping none (list.map fun a => (.scalar none none .doubleQuoted (key a), node a)))
      (.mapping (list.map fun a => (.scalar none .doubleQuoted (key a), tree a))) where
  isStream := by
    have hstream : IsStream ([','].intercalate (list.map fun a =>
        memberText (some (key a), value a))) := by
      apply isStream_intercalate
      rw [List.forall_mem_map]
      intro a ha
      exact (isStream_string (hkey a ha)).append ((h a ha).isStream.cons (by decide))
    rw [Value.record, Json.Writer.value, membersOf_eq, List.map_map, List.map_map]
    exact (hstream.cons (by decide)).append (by decide : IsStream ['\x7d'])
  flows := by
    have hflows := @Lexer.Encloses.flows _ _ _ _ .mapping
      (list.map fun a => (memberText (some (key a), value a),
        Lexer.keyTokens (key a) ++ tokens a))
      (List.forall_mem_map.2 fun a ha => Lexer.isPart_member (hkey a ha) (h a ha).flows)
    simp only [List.map_map, Function.comp_def, keyTokens_append] at hflows
    rw [Value.record, Json.Writer.value, membersOf_eq, List.map_map, List.map_map]
    exact hflows
  readsAs inBlock := Node.readsAs_flowMapping inBlock fun a ha => (h a ha).readsAs false
  standsFor := Node.standsFor_mapping fun a ha => (h a ha).standsFor

end Collections

/-- A text of which some tokens are seen where a flow collection may begin. -/
theorem Lexer.Flows.ofText?_eq {text : List Char} {tokens : List Token} (h : Flows text tokens)
    (hstream : IsStream text) : Token.ofText? text = some tokens := by
  have hready : IsReady { input := { rest := text } } :=
    ⟨isLax_of_none rfl rfl, .inr (show (-1 : Int) < 0 by decide)⟩
  obtain ⟨l, hadds, hrest, -⟩ := h _ [] hready (List.append_nil text).symm
  rw [Token.ofText?_of_leads hstream hadds.leads hrest hadds.isLax hadds.indent, hadds.tokens,
    List.append_nil, List.reverse_reverse]

/-- The text of a value as a document. -/
theorem FlowText.ofText?_eq {value : Value} {tokens : List Token} {isValid : Bool} {node : Node}
    {tree : Tree} (h : FlowText value tokens isValid node tree) :
    Document.ofText? (Json.Writer.value value) =
      if isValid then some ⟨some tree, []⟩ else none := by
  have htokens := h.flows.ofText?_eq h.isStream
  have hnode := (h.readsAs true).ofTokens?_eq
  cases isValid with
  | false =>
    rw [Document.ofText?, htokens, Option.bind_eq_bind, Option.bind_some, hnode]
    rfl
  | true => exact h.standsFor.ofText?_eq htokens hnode

end Inflection.Yaml
