import Inflection.Yaml.Document

/-!
Nodes without names. Such a node stands for the tree of the same parts, in which no
alias is followed.
-/

namespace Inflection.Yaml

/-- Whether a node without names stands for a tree without aliases. -/
structure Node.StandsFor (node : Node) (tree : Tree) : Prop where
  resolve?_eq : ∀ names, node.resolve? names = some ⟨tree, [], names⟩
  aliasCount_eq : ∀ (d : Document) (depth : Nat), d.aliasCount depth tree = 0

namespace Node

theorem standsFor_scalar (text : String) (style : ScalarStyle) :
    (scalar none none style text).StandsFor (.scalar none style text) where
  resolve?_eq _ := rfl
  aliasCount_eq d depth := by
    cases depth with
    | zero => rfl
    | succ depth => rfl

section Collections

variable {α : Type} {list : List α} {node : α → Node} {tree : α → Tree}

theorem resolveItems?_map (h : ∀ a ∈ list, (node a).StandsFor (tree a)) (names : AnchorNames) :
    resolveItems? names (list.map node) = some ⟨list.map tree, [], names⟩ := by
  induction list with
  | nil => rfl
  | cons a list ih =>
    have ha := (h a List.mem_cons_self).resolve?_eq names
    have hothers := ih fun b hb => h b (List.mem_cons_of_mem a hb)
    rw [List.map_cons, resolveItems?, ha, Option.bind_eq_bind, Option.bind_some, hothers]
    rfl

theorem standsFor_sequence (h : ∀ a ∈ list, (node a).StandsFor (tree a)) :
    (sequence none (list.map node)).StandsFor (.sequence (list.map tree)) where
  resolve?_eq names := by
    rw [resolve?, AnchorNames.after, resolveItems?_map h, Option.bind_eq_bind, Option.bind_some]
    rfl
  aliasCount_eq d depth := by
    cases depth with
    | zero => rfl
    | succ depth =>
      simp only [Document.aliasCount, Document.follow?]
      induction list with
      | nil => rfl
      | cons a list ih =>
        rw [List.map_cons, List.foldl_cons, (h a List.mem_cons_self).aliasCount_eq]
        exact ih fun b hb => h b (List.mem_cons_of_mem a hb)

variable {key : α → String} {style : ScalarStyle}

theorem resolvePairs?_map (h : ∀ a ∈ list, (node a).StandsFor (tree a)) (names : AnchorNames) :
    resolvePairs? names (list.map fun a => (scalar none none style (key a), node a)) =
      some ⟨list.map fun a => (.scalar none style (key a), tree a), [], names⟩ := by
  induction list with
  | nil => rfl
  | cons a list ih =>
    have hkey := (standsFor_scalar (key a) style).resolve?_eq names
    have ha := (h a List.mem_cons_self).resolve?_eq names
    have hothers := ih fun b hb => h b (List.mem_cons_of_mem a hb)
    rw [List.map_cons, resolvePairs?, hkey, Option.bind_eq_bind, Option.bind_some, ha,
      Option.bind_eq_bind, Option.bind_some, hothers]
    rfl

theorem standsFor_mapping (h : ∀ a ∈ list, (node a).StandsFor (tree a)) :
    (mapping none (list.map fun a => (scalar none none style (key a), node a))).StandsFor
      (.mapping (list.map fun a => (.scalar none style (key a), tree a))) where
  resolve?_eq names := by
    rw [resolve?, AnchorNames.after, resolvePairs?_map h, Option.bind_eq_bind, Option.bind_some]
    rfl
  aliasCount_eq d depth := by
    cases depth with
    | zero => rfl
    | succ depth =>
      simp only [Document.aliasCount, Document.follow?]
      induction list with
      | nil => rfl
      | cons a list ih =>
        rw [List.map_cons, List.foldl_cons, (h a List.mem_cons_self).aliasCount_eq,
          (standsFor_scalar (key a) style).aliasCount_eq]
        exact ih fun b hb => h b (List.mem_cons_of_mem a hb)

end Collections

/-- A document of one node that is given by its tokens. -/
theorem StandsFor.ofText?_eq {text : List Char} {tokens : List Token} {node : Node} {tree : Tree}
    (h : node.StandsFor tree) (htokens : Token.ofText? text = some tokens)
    (hnode : ofTokens? tokens = some (some node)) :
    Document.ofText? text = some ⟨some tree, []⟩ := by
  rw [Document.ofText?, htokens, Option.bind_eq_bind, Option.bind_some, hnode, Option.bind_eq_bind,
    Option.bind_some]
  simp only [h.resolve?_eq]
  rfl

end Node

end Inflection.Yaml
