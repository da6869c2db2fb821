import Inflection.Proofs.Pattern.Brackets
import Inflection.Proofs.Pattern.Meaning
import Inflection.Proofs.Rule.RuleSet

/-!
The pattern of an ending with classes. The ending is read as items that it
spells one after another; the pattern made of them is read back as one part for
each item, since the text of a class cannot reach past its own closing bracket.
-/

namespace Inflection.Rule.Ending

open Pattern (Node Place Reader)
open Pattern.Escape (metaCharacters metaCharacters_eq)

/-- The text that an item stands for in an ending. -/
def Item.text : Item → List Char
  | literal c => [c]
  | oneOf classText => '[' :: classText ++ [']']

/-- Whether the text of an item is read as that item: a class is not empty and ends at its first
closing bracket, and all but an opening bracket stands for itself. -/
def Item.IsProper : Item → Prop
  | literal c => c ≠ '['
  | oneOf classText => classText ≠ [] ∧ ']' ∉ classText

/-- Whether an ending is made of the given items. -/
def Spells (ending : String) (items : List Item) : Prop :=
  ending.toList = items.flatMap Item.text ∧ ∀ item ∈ items, item.IsProper

/-- The text of the class that is open. -/
def openText : Option (List Char) → List Char
  | none => []
  | some read => '[' :: read.reverse

theorem spells_of_itemsFrom {ending : String} {state : Option (List Char)} {text : List Char}
    {items : List Item} (hstate : ∀ read ∈ state, ']' ∉ read)
    (h : itemsFrom ending state text = .ok items) :
    openText state ++ text = items.flatMap Item.text ∧ ∀ item ∈ items, item.IsProper := by
  fun_induction itemsFrom ending state text generalizing items with
  | case1 =>
    obtain rfl := Except.ok.inj h
    exact ⟨rfl, by simp⟩
  | case2 rest ih => exact ih (by simp) h
  | case3 c rest hc ih =>
    obtain ⟨others, hothers, rfl⟩ := map_eq_ok_iff.1 h
    obtain ⟨htext, hproper⟩ := ih hstate hothers
    refine ⟨?_, by simpa [Item.IsProper, hc] using hproper⟩
    rw [List.flatMap_cons, ← htext]
    rfl
  | case4 | case6 => contradiction
  | case5 read c rest hc ih =>
    have hread : ']' ∉ c :: read := by simpa [Ne.symm hc] using hstate
    obtain ⟨htext, hproper⟩ := ih (by simpa using hread) h
    refine ⟨?_, hproper⟩
    rw [← htext]
    simp [openText]
  | case7 read c rest hc hempty ih =>
    obtain ⟨others, hothers, rfl⟩ := map_eq_ok_iff.1 h
    obtain ⟨htext, hproper⟩ := ih (by simp) hothers
    refine ⟨?_, ?_⟩
    · rw [List.flatMap_cons, ← htext]
      simp [openText, Item.text, Decidable.not_not.1 hc]
    · simpa [Item.IsProper, hempty] using ⟨hstate read rfl, hproper⟩

theorem itemsFrom_class {ending : String} {read classText rest : List Char}
    (hmem : ']' ∉ classText) (hne : read ≠ [] ∨ classText ≠ []) :
    itemsFrom ending (some read) (classText ++ ']' :: rest) =
      (itemsFrom ending none rest).map (.oneOf (read.reverse ++ classText) :: ·) := by
  induction classText generalizing read with
  | nil =>
    have hread : read ≠ [] := hne.resolve_right (by simp)
    simp [itemsFrom, hread]
  | cons c classText ih =>
    rw [List.mem_cons, not_or] at hmem
    rw [List.cons_append, itemsFrom, if_pos (Ne.symm hmem.1), ih hmem.2 (.inl (by simp))]
    simp

theorem itemsFrom_append {ending : String} {items : List Item} {rest : List Char}
    (hproper : ∀ item ∈ items, item.IsProper) :
    itemsFrom ending none (items.flatMap Item.text ++ rest) =
      (itemsFrom ending none rest).map (items ++ ·) := by
  induction items with
  | nil => cases h : itemsFrom ending none rest <;> simp [h, Except.map]
  | cons item items ih =>
    have hitems := ih fun x hx => hproper x (List.mem_cons_of_mem item hx)
    have hcons : ∀ x, ((itemsFrom ending none rest).map (items ++ ·)).map (x :: ·) =
        (itemsFrom ending none rest).map ((x :: items) ++ ·) := by
      intro x
      cases itemsFrom ending none rest <;> rfl
    rw [List.flatMap_cons, List.append_assoc, ← hcons, ← hitems]
    cases item with
    | literal c =>
      have hc : c ≠ '[' := hproper _ List.mem_cons_self
      rw [Item.text, List.singleton_append, itemsFrom, if_neg hc]
    | oneOf classText =>
      obtain ⟨hne, hmem⟩ := hproper _ List.mem_cons_self
      rw [Item.text, List.append_assoc, List.cons_append, itemsFrom, if_pos rfl,
        List.singleton_append, itemsFrom_class hmem (.inr hne)]
      rfl

/-- An ending is read as the items that it is made of, which are the only ones. -/
theorem items_eq_ok_iff {ending : String} {items : List Item} :
    Ending.items ending = .ok items ↔ Spells ending items := by
  constructor
  · intro h
    exact spells_of_itemsFrom (by simp) h
  · intro h
    rw [Ending.items, h.1, ← List.append_nil (items.flatMap Item.text), itemsFrom_append h.2,
      itemsFrom]
    exact congrArg Except.ok (List.append_nil items)

theorem Spells.unique {ending : String} {items items' : List Item} (h : Spells ending items)
    (h' : Spells ending items') : items = items' :=
  Except.ok.inj ((items_eq_ok_iff.2 h).symm.trans (items_eq_ok_iff.2 h'))

section Classes

open Pattern.CharacterClass

@[simp] theorem patternText_cons (item : Item) (items : List Item) :
    patternText (item :: items) = item.patternText ++ patternText items := by
  simp [patternText]

theorem patternText_literal (c : Char) :
    (Item.literal c).patternText = if c ∈ metaCharacters then ['\\', c] else [c] := by
  simp [Item.patternText, Pattern.Escape.quote]

theorem patternText_oneOf_append (classText rest : List Char) :
    (Item.oneOf classText).patternText ++ rest =
      '(' :: '[' :: (classText ++ ']' :: ')' :: rest) := by
  simp [Item.patternText]

/-- No item makes a range of a character before it. -/
theorem head?_patternText_ne (items : List Item) : (patternText items).head? ≠ some '-' := by
  cases items with
  | nil => decide
  | cons item items =>
    rw [patternText_cons]
    cases item with
    | oneOf classText => simp [Item.patternText]
    | literal c =>
      rw [patternText_literal]
      split
      · simp
      · rename_i hc
        rintro ⟨rfl⟩
        exact hc (by simp [metaCharacters_eq])

/-- A class that is open before the pattern of some items does not end in it. -/
theorem unending_patternText {items : List Item} (hproper : ∀ item ∈ items, item.IsProper) :
    Unending (patternText items) := by
  induction items with
  | nil =>
    have hend : Unending [] := by
      intro n outer level
      cases n <;> rfl
    exact hend.plain (by simp) (by decide)
  | cons item items ih =>
    have hothers := ih fun x hx => hproper x (List.mem_cons_of_mem item hx)
    have hhead := head?_patternText_ne items
    rw [patternText_cons]
    cases item with
    | literal c =>
      rw [patternText_literal]
      split
      · rename_i hc
        exact hothers.quoted hhead hc
      · rename_i hc
        have hspecial : ∀ x ∈ ['[', ']', '-', '&', '~', '\\'], x ∈ metaCharacters := by
          simp [metaCharacters_eq]
        exact hothers.plain hhead fun hmem => hc (hspecial c hmem)
    | oneOf classText =>
      have hclass : ']' ∉ classText := (hproper _ List.mem_cons_self).2
      have hafter : Unending (')' :: patternText items) := hothers.plain hhead (by decide)
      rw [patternText_oneOf_append]
      exact (hafter.bracketed (by simp) hclass).plain (by simp) (by decide)

/-- The text of a class is read alike inside the pattern and by itself. -/
theorem read_class {classText rest : List Char} {items : List Item} {x : Operand}
    (hclass : ']' ∉ classText) (hproper : ∀ item ∈ items, item.IsProper)
    (h : Pattern.CharacterClass.read {} (classText ++ ']' :: ')' :: patternText items) = some (x, rest)) :
    rest = ')' :: patternText items ∧
      Pattern.CharacterClass.read {} (classText ++ [']']) = some (x, []) := by
  have hafter : Unending (')' :: patternText items) :=
    (unending_patternText hproper).plain (head?_patternText_ne items) (by decide)
  have hrest : rest = ')' :: patternText items := by
    rw [Pattern.CharacterClass.read] at h
    simp only at h
    rcases openLevel_cases classText (')' :: patternText items) with
      hleft | ⟨inside, hinside, hleft⟩
    · rw [hleft, hafter] at h
      contradiction
    · rw [hleft] at h
      have hmem : ']' ∉ inside := fun hmem => hclass (hinside.subset hmem)
      exact (hafter.ends_of_readFrom (by simp) hmem h).2
  refine ⟨hrest, ?_⟩
  have hstop := @Pattern.Local.stop _ _ (local_read {}) (classText ++ [']']) (patternText items) []
    [] x (.inl rfl)
  simp only [List.append_assoc, List.singleton_append, List.nil_append, List.append_nil] at hstop
  exact hstop (hrest ▸ h)

end Classes

/-- The characters of the class with the given text between its brackets. -/
def classOf? (classText : List Char) : Option CharSet :=
  match Pattern.CharacterClass.read {} (classText ++ [']']) with
  | some (operand, []) => some operand.members
  | _ => none

/-- Whether a text in brackets is by itself a pattern for one character of a class. -/
def Denotes (classText : List Char) (members : CharSet) : Prop :=
  ∃ r, Reader.read? {} (Item.oneOf classText).text = some r ∧ r.outer = [] ∧
    r.piece.node = Node.ofSet members

theorem denotes_of_classOf? {classText : List Char} {members : CharSet}
    (h : classOf? classText = some members) : Denotes classText members := by
  unfold classOf? at h
  split at h
  · rename_i operand hread
    obtain rfl := Option.some.inj h
    have hstep : Reader.step? {} '[' (classText ++ [']']) =
        some (Reader.pushSet {} operand.members operand.height, []) := by
      simp [Reader.step?, hread]
    refine ⟨Reader.pushSet {} operand.members operand.height, ?_, rfl, rfl⟩
    rw [Reader.read?, Item.text, List.cons_append, Reader.readFrom]
    simp only [Pattern.Flags.skip, Bool.false_eq_true, if_false, hstep, List.length_cons]
    rfl
  · contradiction

/-- The parts that items make, where groups have numbers from `next` on. -/
def nodes : Nat → List Item → List Node
  | _, [] => []
  | next, .literal c :: items => Node.ofSet (CharSet.single c) :: nodes next items
  | next, .oneOf classText :: items =>
    .group next (Node.ofSet ((classOf? classText).getD ∅)) :: nodes (next + 1) items

section Reading

open Pattern (Piece)
open Pattern.Reader (Reads)

variable {r whole : Reader} {rest : List Char} {items : List Item}

/-- Whether a reader stands outside all groups, in the first alternative, with the switches as at
the beginning. -/
structure AtTop (r : Reader) : Prop where
  flags : r.flags = {}
  outer : r.outer = []
  alternatives : r.alternatives = []

theorem next?_literal (hr : AtTop r) (c : Char) :
    r.next? ((Item.literal c).patternText ++ rest) = some (r.pushLiteral c, rest) := by
  rw [patternText_literal]
  split
  · rename_i hc
    have hread : r.escape? (c :: rest) = some (r.pushLiteral c, rest) := by
      rw [Reader.escape?_eq_map, Pattern.Escape.read_of_mem_metaCharacters hc]
      · rfl
      · rintro left ⟨rfl⟩
        simp [metaCharacters_eq] at hc
    simpa [Reader.next?, hr.flags, Pattern.Flags.skip, Reader.step?] using hread
  · rename_i hc
    simp only [metaCharacters_eq, List.mem_cons, List.not_mem_nil, or_false, not_or] at hc
    simp [Reader.next?, hr.flags, Pattern.Flags.skip, Reader.step?, hc]

theorem reads_literal {c : Char} (hr : AtTop r)
    (h : Reads r ((Item.literal c).patternText ++ patternText items) whole rest)
    (hnone : whole.next? rest = none) :
    ∃ r', AtTop r' ∧ r'.groupCount = r.groupCount ∧
      r'.parts.map Piece.node = Node.ofSet (CharSet.single c) :: r.parts.map Piece.node ∧
        Reads r' (patternText items) whole rest := by
  refine ⟨r.pushLiteral c, ⟨hr.flags, hr.outer, hr.alternatives⟩, rfl, ?_,
    h.tail (next?_literal hr c) hnone⟩
  simp [Reader.pushLiteral, Reader.push, hr.flags, Pattern.Flags.literal]

theorem next?_openCapture (hflags : r.flags = {}) {text : List Char} :
    r.next? ('(' :: '[' :: text) = some (r.openCapture, '[' :: text) := by
  simp [Reader.next?, hflags, Pattern.Flags.skip, Reader.step?, Reader.group?]

theorem next?_class (hflags : r.flags = {}) {text : List Char} :
    r.next? ('[' :: text) = (Pattern.CharacterClass.read {} text).map fun x =>
      (r.pushSet x.1.members x.1.height, x.2) := by
  rw [Reader.next?, hflags]
  change r.step? '[' _ = _
  simp only [Reader.step?, hflags]
  cases Pattern.CharacterClass.read {} text <;> rfl

theorem next?_closeCapture (hflags : r.flags = {}) {members : CharSet} {height : Nat} :
    (r.openCapture.pushSet members height).next? (')' :: rest) = some ({ r with
      parts := ⟨.group (r.groupCount + 1) (Node.ofSet members), height + 1, true⟩ :: r.parts
      groupCount := r.groupCount + 1 }, rest) := by
  have hinside : (r.openCapture.pushSet members height).flags = {} := hflags
  rw [Reader.next?, hinside]
  rfl

theorem reads_class {classText : List Char} (hr : AtTop r)
    (hproper : ∀ item ∈ Item.oneOf classText :: items, item.IsProper)
    (h : Reads r ((Item.oneOf classText).patternText ++ patternText items) whole rest)
    (hnone : whole.next? rest = none) (houter : whole.outer = []) :
    ∃ r' members, classOf? classText = some members ∧ AtTop r' ∧ r'.groupCount = r.groupCount + 1 ∧
      r'.parts.map Piece.node =
        .group (r.groupCount + 1) (Node.ofSet members) :: r.parts.map Piece.node ∧
          Reads r' (patternText items) whole rest := by
  rw [patternText_oneOf_append] at h
  have hinside := h.tail (next?_openCapture hr.flags) hnone
  have hset := @next?_class r.openCapture hr.flags (classText ++ ']' :: ')' :: patternText items)
  cases hread : Pattern.CharacterClass.read {} (classText ++ ']' :: ')' :: patternText items) with
  | none =>
    rw [hread] at hset
    obtain ⟨rfl, -⟩ := hinside.eq_of_next?_eq_none hset
    simp [Reader.openCapture, Reader.openGroup] at houter
  | some x =>
    obtain ⟨operand, left⟩ := x
    obtain ⟨rfl, halone⟩ := read_class (hproper _ List.mem_cons_self).2
      (fun item hitem => hproper item (List.mem_cons_of_mem _ hitem)) hread
    rw [hread] at hset
    have hmembers : classOf? classText = some operand.members := by rw [classOf?, halone]
    have hafter := (hinside.tail hset hnone).tail (next?_closeCapture hr.flags) hnone
    refine ⟨_, operand.members, hmembers, ?_, ?_, ?_, hafter⟩
    · exact ⟨hr.flags, hr.outer, hr.alternatives⟩
    · rfl
    · rfl

/-- The pattern of an ending is read as one part for each item and the end of the text. -/
theorem reads_patternText (hr : AtTop r) (hproper : ∀ item ∈ items, item.IsProper)
    (h : Reads r (patternText items) whole rest) (hrest : whole.flags.skip rest = [])
    (houter : whole.outer = []) :
    (∀ classText, .oneOf classText ∈ items → (classOf? classText).isSome) ∧
      whole.alternatives = [] ∧ whole.parts.reverse.map Piece.node =
        r.parts.reverse.map Piece.node ++ nodes (r.groupCount + 1) items ++ [.look .endOfText] := by
  have hnone := Reader.next?_eq_none_of_skip hrest
  induction items generalizing r with
  | nil =>
    have hend : r.next? (patternText []) = some (r.pushLook .endOfText, []) := by
      rw [Reader.next?, hr.flags]
      change some (r.pushLook r.flags.dollar, []) = _
      rw [hr.flags]
      rfl
    obtain ⟨rfl, -⟩ := (h.tail hend hnone).eq_of_next?_eq_none (by
      rw [Reader.next?, show (r.pushLook .endOfText).flags = {} from hr.flags]
      rfl)
    refine ⟨by simp, hr.alternatives, ?_⟩
    simp [Reader.pushLook, Reader.push, nodes]
  | cons item items ih =>
    rw [patternText_cons] at h
    have hitems := fun x hx => hproper x (List.mem_cons_of_mem item hx)
    cases item with
    | literal c =>
      obtain ⟨r', hr', hcount, hparts, hreads⟩ := reads_literal hr h hnone
      obtain ⟨hclasses, halternatives, hnodes⟩ := ih hr' hitems hreads
      refine ⟨by simpa using hclasses, halternatives, ?_⟩
      rw [hnodes, hcount, List.map_reverse, hparts]
      simp [nodes]
    | oneOf classText =>
      obtain ⟨r', members, hmembers, hr', hcount, hparts, hreads⟩ :=
        reads_class hr hproper h hnone houter
      obtain ⟨hclasses, halternatives, hnodes⟩ := ih hr' hitems hreads
      refine ⟨?_, halternatives, ?_⟩
      · simpa [hmembers] using hclasses
      · rw [hnodes, hcount, List.map_reverse, hparts]
        simp [nodes, hmembers]

end Reading

end Inflection.Rule.Ending
