import Inflection.Proofs.Pattern.Meaning

/-!
The texts that a node matches in full. A node without conditions on the place
matches a text in full wherever the text stands.
-/

namespace Inflection.Pattern.Node

/-- Whether a node matches a text in full, if conditions on the place are left aside. -/
def Matches : Node → List Char → Prop
  | empty, text => text = []
  | literal written, text => text = written
  | set members, text => ∃ c, members.contains c ∧ text = [c]
  | look _, text => text = []
  | group _ body, text => body.Matches text
  | seq first second, text => ∃ left right, text = left ++ right ∧ first.Matches left ∧
      second.Matches right
  | alt first second, text => first.Matches text ∨ second.Matches text
  | times low high _ body, text => ∃ pieces : List (List Char), text = pieces.flatten ∧
      low ≤ pieces.length ∧ (∀ most ∈ high, pieces.length ≤ max low most) ∧
        ∀ piece ∈ pieces, body.Matches piece

/-- Whether a node has no condition on the place in it. -/
def isLookFree : Node → Bool
  | empty | literal _ | set _ => true
  | look _ => false
  | group _ body | times _ _ _ body => body.isLookFree
  | seq first second | alt first second => first.isLookFree && second.isLookFree

section Repetition

variable {body : Node} {count : Nat} {p q : Place}

theorem flatten_of_repeated
    (hbody : ∀ {p q}, body.Leads p q → ∃ text, p.rest = text ++ q.rest ∧ body.Matches text)
    (h : Repeated body.Leads count p q) :
    ∃ pieces : List (List Char), pieces.length = count ∧ p.rest = pieces.flatten ++ q.rest ∧
      ∀ piece ∈ pieces, body.Matches piece := by
  induction count generalizing p with
  | zero =>
    obtain rfl := h
    exact ⟨[], rfl, rfl, by simp⟩
  | succ count ih =>
    obtain ⟨m, hfirst, hothers⟩ := h
    obtain ⟨piece, hpiece, hmatches⟩ := hbody hfirst
    obtain ⟨pieces, rfl, hpieces, hall⟩ := ih hothers
    refine ⟨piece :: pieces, rfl, ?_, ?_⟩
    · rw [hpiece, hpieces, List.flatten_cons, List.append_assoc]
    · simpa [hmatches] using hall

theorem repeated_of_flatten
    (hbody : ∀ {text rest p}, body.Matches text → p.rest = text ++ rest →
      ∃ q, body.Leads p q ∧ q.rest = rest)
    {pieces : List (List Char)} {rest : List Char} (hall : ∀ piece ∈ pieces, body.Matches piece)
    (hrest : p.rest = pieces.flatten ++ rest) :
    ∃ q, Repeated body.Leads pieces.length p q ∧ q.rest = rest := by
  induction pieces generalizing p with
  | nil => exact ⟨p, rfl, hrest⟩
  | cons piece pieces ih =>
    rw [List.flatten_cons, List.append_assoc] at hrest
    obtain ⟨m, hfirst, hm⟩ := hbody (hall piece List.mem_cons_self) hrest
    obtain ⟨q, hothers, hq⟩ := ih (fun x hx => hall x (List.mem_cons_of_mem piece hx)) hm
    exact ⟨q, ⟨m, hfirst, hothers⟩, hq⟩

end Repetition

/-- What stands between the ends of a match is a text that the node matches in full. -/
theorem matches_of_leads {node : Node} {p q : Place} (h : node.Leads p q) :
    ∃ text, p.rest = text ++ q.rest ∧ node.Matches text := by
  induction node generalizing p q with
  | empty =>
    obtain rfl := h
    exact ⟨[], rfl, rfl⟩
  | literal written =>
    obtain ⟨rest, hrest, rfl⟩ := h
    exact ⟨written, hrest, rfl⟩
  | set members =>
    obtain ⟨c, hc, rest, hrest, rfl⟩ := h
    exact ⟨[c], hrest, c, hc, rfl⟩
  | look boundary =>
    obtain ⟨-, rfl⟩ := h
    exact ⟨[], rfl, rfl⟩
  | group index body ih =>
    obtain ⟨m, hbody, rfl⟩ := h
    obtain ⟨text, hrest, hmatches⟩ := ih hbody
    exact ⟨text, hrest, hmatches⟩
  | seq first second ih₁ ih₂ =>
    obtain ⟨m, hfirst, hsecond⟩ := h
    obtain ⟨left, hleft, hmatches⟩ := ih₁ hfirst
    obtain ⟨right, hright, hmatches'⟩ := ih₂ hsecond
    exact ⟨left ++ right, by rw [hleft, hright, List.append_assoc], left, right, rfl, hmatches,
      hmatches'⟩
  | alt first second ih₁ ih₂ =>
    rcases h with h | h
    · obtain ⟨text, htext, hmatches⟩ := ih₁ h
      exact ⟨text, htext, .inl hmatches⟩
    · obtain ⟨text, htext, hmatches⟩ := ih₂ h
      exact ⟨text, htext, .inr hmatches⟩
  | times low high greedy body ih =>
    obtain ⟨count, hlow, hhigh, hcount⟩ := h
    obtain ⟨pieces, rfl, hrest, hall⟩ := flatten_of_repeated ih hcount
    exact ⟨pieces.flatten, hrest, pieces, rfl, hlow, hhigh, hall⟩

/-- A text that a node matches in full can be passed where it comes next. -/
theorem leads_of_matches {node : Node} (hfree : node.isLookFree) {text rest : List Char} {p : Place}
    (h : node.Matches text) (hrest : p.rest = text ++ rest) :
    ∃ q, node.Leads p q ∧ q.rest = rest := by
  induction node generalizing p text rest with
  | empty =>
    obtain rfl := h
    exact ⟨p, rfl, hrest⟩
  | literal written =>
    obtain rfl := h
    exact ⟨_, ⟨rest, hrest, rfl⟩, rfl⟩
  | set members =>
    obtain ⟨c, hc, rfl⟩ := h
    exact ⟨_, ⟨c, hc, rest, hrest, rfl⟩, rfl⟩
  | look boundary => contradiction
  | group index body ih =>
    obtain ⟨m, hbody, hm⟩ := @ih hfree text rest (p.mark index true) h hrest
    exact ⟨_, ⟨m, hbody, rfl⟩, hm⟩
  | seq first second ih₁ ih₂ =>
    rw [isLookFree, Bool.and_eq_true] at hfree
    obtain ⟨left, right, rfl, hleft, hright⟩ := h
    rw [List.append_assoc] at hrest
    obtain ⟨m, hfirst, hm⟩ := ih₁ hfree.1 hleft hrest
    obtain ⟨q, hsecond, hq⟩ := ih₂ hfree.2 hright hm
    exact ⟨q, ⟨m, hfirst, hsecond⟩, hq⟩
  | alt first second ih₁ ih₂ =>
    rw [isLookFree, Bool.and_eq_true] at hfree
    rcases h with h | h
    · obtain ⟨q, hleads, hq⟩ := ih₁ hfree.1 h hrest
      exact ⟨q, .inl hleads, hq⟩
    · obtain ⟨q, hleads, hq⟩ := ih₂ hfree.2 h hrest
      exact ⟨q, .inr hleads, hq⟩
  | times low high greedy body ih =>
    obtain ⟨pieces, rfl, hlow, hhigh, hall⟩ := h
    obtain ⟨q, hrepeated, hq⟩ := repeated_of_flatten (ih hfree) hall hrest
    exact ⟨q, ⟨pieces.length, hlow, hhigh, hrepeated⟩, hq⟩

end Inflection.Pattern.Node
