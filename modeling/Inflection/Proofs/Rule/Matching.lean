import Inflection.Proofs.Pattern.Finding
import Inflection.Proofs.Rule.Ending

/-!
What the pattern of an ending finds in a text. It finds the characters at the
end of the text if they fit the items one by one, and keeps under the number of
each class the one character that fits it.
-/

namespace Inflection

namespace Pattern

namespace Node

/-- The numbers of the groups in a node, from left to right. -/
def groups : Node → List Nat
  | empty | literal _ | set _ | look _ => []
  | group index body => index :: body.groups
  | seq first second | alt first second => first.groups ++ second.groups
  | times _ _ _ body => body.groups

@[simp] theorem groups_ofSet (s : CharSet) : (ofSet s).groups = [] := by
  unfold ofSet
  split <;> rfl

theorem flatMap_groups_parts (node : Node) : node.parts.flatMap groups = node.groups := by
  induction node with
  | seq first second _ ih => rw [parts, List.flatMap_cons, ih, groups]
  | _ => simp [parts, groups]

theorem flatMap_groups_prepend (node : Node) (rest : List Node) :
    (prepend node rest).flatMap groups = node.groups ++ rest.flatMap groups := by
  unfold prepend
  split
  · simp [groups]
  · rfl

theorem flatMap_groups_foldr_prepend (nodes : List Node) :
    (nodes.foldr prepend []).flatMap groups = nodes.flatMap groups := by
  induction nodes with
  | nil => rfl
  | cons node nodes ih => rw [List.foldr_cons, flatMap_groups_prepend, ih, List.flatMap_cons]

theorem groups_foldr_seq (nodes : List Node) (last : Node) :
    (nodes.foldr seq last).groups = (nodes ++ [last]).flatMap groups := by
  induction nodes with
  | nil => simp
  | cons node nodes ih => rw [List.foldr_cons, groups, ih, List.cons_append, List.flatMap_cons]

/-- A sequence has the groups of its nodes. -/
theorem groups_sequence (nodes : List Node) : (sequence nodes).groups = nodes.flatMap groups := by
  have hparts : (nodes.flatMap parts).flatMap groups = nodes.flatMap groups := by
    simp only [List.flatMap_assoc, flatMap_groups_parts]
  rw [← hparts, ← flatMap_groups_foldr_prepend, sequence]
  generalize (nodes.flatMap parts).foldr prepend [] = all
  cases hlast : all.getLast? with
  | none =>
    rw [List.getLast?_eq_none_iff.1 hlast]
    rfl
  | some last =>
    obtain ⟨front, rfl⟩ := List.getLast?_eq_some_iff.1 hlast
    simp only [List.dropLast_concat, groups_foldr_seq]

end Node

namespace Piece

theorem leads_sequence {pieces : List Piece} {p q : Place} :
    (sequence pieces).node.Leads p q ↔ Node.LeadsAll (pieces.reverse.map node) p q := by
  match pieces with
  | [] => rfl
  | [piece] => simp [sequence]
  | piece :: piece' :: pieces => exact Node.leads_sequence

theorem groups_sequence (pieces : List Piece) :
    (sequence pieces).node.groups = (pieces.reverse.map node).flatMap Node.groups := by
  match pieces with
  | [] => rfl
  | [piece] => simp [sequence]
  | piece :: piece' :: pieces => exact Node.groups_sequence _

end Piece

@[simp] theorem Place.mark_offset (p : Place) (index : Nat) (opens : Bool) :
    (p.mark index opens).offset = p.offset :=
  rfl

/-- The offset of the last begin or end of a group that has been passed. -/
def Place.offset? (p : Place) (index : Nat) (opens : Bool) : Option Nat :=
  (p.thread 0).offset? index opens

@[simp] theorem Place.offset?_mark (p : Place) (index index' : Nat) (opens opens' : Bool) :
    (p.mark index opens).offset? index' opens' =
      if index = index' ∧ opens = opens' then some p.offset else p.offset? index' opens' := by
  by_cases h : index = index' ∧ opens = opens'
  · simp [offset?, Thread.offset?, thread, mark, h]
  · have hne : (index = index' && opens == opens') = false := by simpa using h
    simp [offset?, Thread.offset?, thread, mark, h, hne]

@[simp] theorem Place.offset?_after (p : Place) (text rest : List Char) (index : Nat) (opens : Bool) :
    (p.after text rest).offset? index opens = p.offset? index opens :=
  rfl

theorem Match.span?_ofThread (text : List Char) (q : Place) (address index : Nat) :
    (Match.ofThread text (q.thread address)).span? index = do
      return (← q.offset? index true, ← q.offset? index false) :=
  rfl

end Pattern

namespace Rule.Ending

open Pattern (Node Place)

/-- Whether a character fits an item. -/
def Item.holds : Item → Char → Bool
  | literal c, x => x == c
  | oneOf classText, x => (classOf? classText).any (·.contains x)

/-- The characters that fit the classes among the items, from left to right. -/
def captured : List Item → List Char → List Char
  | .literal _ :: items, _ :: chars => captured items chars
  | .oneOf _ :: items, c :: chars => c :: captured items chars
  | _, _ => []

/-- Whether characters fit items one by one. -/
abbrev Fit (items : List Item) (chars : List Char) : Prop :=
  List.Forall₂ (fun item c => item.holds c = true) items chars

variable {items : List Item} {chars : List Char}

@[simp] theorem captures_literal (c : Char) (items : List Item) :
    captures (.literal c :: items) = captures items :=
  List.countP_cons_of_neg (by simp [Item.isClass])

@[simp] theorem captures_oneOf (classText : List Char) (items : List Item) :
    captures (.oneOf classText :: items) = captures items + 1 :=
  List.countP_cons_of_pos rfl

theorem length_captured (h : Fit items chars) : (captured items chars).length = captures items := by
  induction h with
  | nil => rfl
  | @cons item c items chars _ _ ih => cases item <;> simp [captured, ih]

/-- The groups of the parts are numbered one after another, one for each class. -/
theorem groups_nodes (next : Nat) (items : List Item) :
    (nodes next items).flatMap Node.groups = List.range' next (captures items) := by
  induction items generalizing next with
  | nil => rfl
  | cons item items ih => cases item <;> simp [nodes, ih, Node.groups, List.range'_succ]

theorem holds_oneOf_iff {classText : List Char} {c : Char} :
    (Item.oneOf classText).holds c = true ↔ ((classOf? classText).getD ∅).contains c = true := by
  rw [Item.holds]
  cases classOf? classText with
  | none => simp [CharSet.contains_empty]
  | some members => rfl

/-- What is known at the place after some characters that fit items: where they end, and where
each character that fits a class stands. -/
structure Passed (next : Nat) (items : List Item) (chars : List Char) (p q : Place) : Prop where
  rest : p.rest = chars ++ q.rest
  offset : q.offset = p.offset + chars.length
  others : ∀ index < next, ∀ opens, q.offset? index opens = p.offset? index opens
  kept : ∀ k c, (captured items chars)[k]? = some c → ∃ i, chars[i]? = some c ∧
    q.offset? (next + k) true = some (p.offset + i) ∧
      q.offset? (next + k) false = some (p.offset + i + 1)

theorem Passed.literal {next : Nat} {c x : Char} {rest : List Char} {p q : Place}
    (hrest : p.rest = x :: rest) (h : Passed next items chars (p.after [x] rest) q) :
    Passed next (.literal c :: items) (x :: chars) p q where
  rest := by rw [hrest, List.cons_append, ← h.rest]; rfl
  offset := by
    rw [h.offset, Place.after_offset, List.length_singleton, List.length_cons]
    omega
  others index hindex opens := h.others index hindex opens
  kept k y hy := by
    obtain ⟨i, hi, hopen, hclose⟩ := h.kept k y hy
    refine ⟨i + 1, hi, ?_, ?_⟩
    · rw [hopen, Place.after_offset, List.length_singleton, Nat.add_assoc, Nat.add_comm 1 i]
    · rw [hclose, Place.after_offset, List.length_singleton, Nat.add_assoc p.offset, Nat.add_comm 1 i]

theorem Passed.oneOf {next : Nat} {classText : List Char} {x : Char} {rest : List Char} {p q : Place}
    (hrest : p.rest = x :: rest)
    (h : Passed (next + 1) items chars (((p.mark next true).after [x] rest).mark next false) q) :
    Passed next (.oneOf classText :: items) (x :: chars) p q where
  rest := by rw [hrest, List.cons_append, ← h.rest]; rfl
  offset := by
    rw [h.offset]
    simp only [Place.mark_offset, Place.after_offset, List.length_cons, List.length_nil]
    omega
  others index hindex opens := by
    rw [h.others index (by omega) opens]
    simp [show next ≠ index by omega]
  kept k y hy := by
    cases k with
    | zero =>
      obtain rfl : x = y := by simpa [captured] using hy
      have hopen := h.others next (Nat.lt_succ_self next) true
      have hclose := h.others next (Nat.lt_succ_self next) false
      exact ⟨0, rfl, by simpa using hopen, by simpa using hclose⟩
    | succ k =>
      obtain ⟨i, hi, hopen, hclose⟩ := h.kept k y hy
      simp only [Place.mark_offset, Place.after_offset, List.length_singleton, Nat.add_right_comm next 1 k,
        Nat.add_right_comm p.offset 1 i] at hopen hclose
      exact ⟨i + 1, hi, hopen, hclose⟩

/-- The parts of items lead past characters that fit them. -/
theorem passed_of_leadsAll {next : Nat} {p q : Place} (h : Node.LeadsAll (nodes next items) p q) :
    ∃ chars, Fit items chars ∧ Passed next items chars p q := by
  induction items generalizing next p with
  | nil =>
    obtain rfl := h
    exact ⟨[], .nil, rfl, rfl, fun _ _ _ => rfl, by simp [captured]⟩
  | cons item items ih =>
    cases item with
    | literal c =>
      obtain ⟨m, hset, hothers⟩ := h
      obtain ⟨x, hx, rest, hrest, rfl⟩ := Node.leads_ofSet.1 hset
      obtain ⟨chars, hfit, hpassed⟩ := ih hothers
      have hholds : (Item.literal c).holds x = true :=
        beq_iff_eq.2 ((CharSet.contains_single c x).1 hx)
      exact ⟨x :: chars, .cons hholds hfit, hpassed.literal hrest⟩
    | oneOf classText =>
      obtain ⟨_, ⟨m, hset, rfl⟩, hothers⟩ := h
      obtain ⟨x, hx, rest, hrest, rfl⟩ := Node.leads_ofSet.1 hset
      obtain ⟨chars, hfit, hpassed⟩ := ih hothers
      exact ⟨x :: chars, .cons (holds_oneOf_iff.2 hx) hfit, hpassed.oneOf hrest⟩

theorem exists_leadsAll {next : Nat} {p : Place} {rest : List Char} (h : Fit items chars)
    (hrest : p.rest = chars ++ rest) : ∃ q, Node.LeadsAll (nodes next items) p q ∧ q.rest = rest := by
  induction h generalizing next p with
  | nil => exact ⟨p, rfl, hrest⟩
  | @cons item x items chars hholds _ ih =>
    cases item with
    | literal c =>
      obtain ⟨q, hothers, hq⟩ := @ih next (p.after [x] (chars ++ rest)) rfl
      have hx := (CharSet.contains_single c x).2 (beq_iff_eq.1 hholds)
      exact ⟨q, ⟨_, Node.leads_ofSet.2 ⟨x, hx, _, hrest, rfl⟩, hothers⟩, hq⟩
    | oneOf classText =>
      obtain ⟨q, hothers, hq⟩ := @ih (next + 1)
        (((p.mark next true).after [x] (chars ++ rest)).mark next false) rfl
      exact ⟨q, ⟨_, ⟨_, Node.leads_ofSet.2 ⟨x, holds_oneOf_iff.1 hholds, _, hrest, rfl⟩, rfl⟩,
        hothers⟩, hq⟩

/-- The pattern of an ending, compiled. -/
theorem node_of_ofText? {p : Pattern} (hproper : ∀ item ∈ items, item.IsProper)
    (h : Pattern.ofText? (patternText items) = some p) :
    (∀ classText, .oneOf classText ∈ items → (classOf? classText).isSome) ∧
      p.node.groups = List.range' 1 (captures items) ∧
        ∀ a b, p.node.Leads a b ↔ Node.LeadsAll (nodes 1 items ++ [.look .endOfText]) a b := by
  obtain ⟨whole, hread, hpattern⟩ := Option.bind_eq_some_iff.1 h
  obtain ⟨hcomplete, -, hnode⟩ := Pattern.Reader.of_pattern? hpattern
  obtain ⟨rest, hreads, hrest⟩ := Pattern.Reader.read?_eq_some_iff.1 hread
  obtain ⟨hclasses, halternatives, hparts⟩ := reads_patternText ⟨rfl, rfl, rfl⟩ hproper hreads hrest
    (Pattern.Reader.outer_of_isComplete hcomplete)
  have hpiece : p.node = (Pattern.Piece.sequence whole.parts).node := by
    rw [hnode, Pattern.Reader.piece, halternatives]
    rfl
  refine ⟨hclasses, ?_, fun a b => ?_⟩
  · rw [hpiece, Pattern.Piece.groups_sequence, hparts]
    simp [groups_nodes, Node.groups]
  · rw [hpiece, Pattern.Piece.leads_sequence, hparts]
    rfl

theorem rest_eq_nil_of_end {q : Place}
    (h : Pattern.Boundary.endOfText.holds q.before q.rest.head? = true) : q.rest = [] :=
  List.head?_eq_none_iff.1 (Option.isNone_iff_eq_none.1 h)

section Found

variable {p : Pattern} {text : List Char}

/-- A match is found just if the text ends with characters that fit the items. -/
theorem isSome_find?_iff
    (hleads : ∀ a b, p.node.Leads a b ↔ Node.LeadsAll (nodes 1 items ++ [.look .endOfText]) a b) :
    (p.find? text).isSome ↔ ∃ head chars, text = head ++ chars ∧ Fit items chars := by
  rw [Pattern.isSome_find?_iff]
  simp only [Pattern.leads_anywhere, hleads, Node.leadsAll_append, Node.leadsAll_singleton]
  constructor
  · rintro ⟨_, head, rest, q, htext, ⟨m, hitems, hend, rfl⟩, rfl⟩
    obtain ⟨chars, hfit, hpassed⟩ := passed_of_leadsAll hitems
    refine ⟨head, chars, ?_, hfit⟩
    have hrest : rest = chars ++ q.rest := hpassed.rest
    rw [htext, hrest, rest_eq_nil_of_end hend, List.append_nil]
  · rintro ⟨head, chars, htext, hfit⟩
    obtain ⟨q, hitems, hq⟩ := @exists_leadsAll items chars 1
      (((Place.start text).after head chars).mark 0 true) [] hfit (List.append_nil chars).symm
    exact ⟨_, head, chars, q, htext, ⟨q, hitems, by rw [hq]; rfl, rfl⟩, rfl⟩

/-- A match that is found lies at the end of the text, and keeps the characters of the classes. -/
theorem of_find?
    (hleads : ∀ a b, p.node.Leads a b ↔ Node.LeadsAll (nodes 1 items ++ [.look .endOfText]) a b)
    {found : Pattern.Match} (h : p.find? text = some found) :
    ∃ head chars, text = head ++ chars ∧ Fit items chars ∧
      found.span? 0 = some (head.length, text.length) ∧
        ∀ k c, (captured items chars)[k]? = some c → found.group? (k + 1) = some [c] := by
  obtain ⟨_, hfound, address, rfl⟩ := Pattern.leads_of_find? h
  obtain ⟨head, rest, q, htext, hq, rfl⟩ := Pattern.leads_anywhere.1 hfound
  rw [hleads, Node.leadsAll_append] at hq
  obtain ⟨m, hitems, hend⟩ := hq
  obtain ⟨hlook, rfl⟩ := Node.leadsAll_singleton.1 hend
  obtain ⟨chars, hfit, hpassed⟩ := passed_of_leadsAll hitems
  have hrest : rest = chars ++ q.rest := hpassed.rest
  rw [rest_eq_nil_of_end hlook, List.append_nil] at hrest
  subst hrest
  have hoffset : q.offset = text.length := by
    rw [hpassed.offset, htext, List.length_append]
    simp [Place.start]
  have hopen : q.offset? 0 true = some head.length := by
    rw [hpassed.others 0 Nat.zero_lt_one true]
    simp [Place.start]
  refine ⟨head, rest, htext, hfit, ?_, fun k c hc => ?_⟩
  · rw [Pattern.Match.span?_ofThread]
    simp [hopen, hoffset]
  · obtain ⟨i, hi, hbegin, hend⟩ := hpassed.kept k c hc
    rw [Nat.add_comm 1 k] at hbegin hend
    rw [Pattern.Match.group?, Pattern.Match.span?_ofThread]
    simp only [Place.mark_offset, Place.after_offset, Place.start, Nat.zero_add] at hbegin hend
    have hbetween : Pattern.between text (head.length + i) (head.length + i + 1) = [c] := by
      rw [Pattern.between, Nat.add_sub_cancel_left, List.take_one, List.head?_drop, htext,
        List.getElem?_append_right (Nat.le_add_right _ _), Nat.add_sub_cancel_left, hi]
      rfl
    simp [hbegin, hend, ← hbetween, Pattern.Match.ofThread]

end Found

end Rule.Ending

end Inflection
