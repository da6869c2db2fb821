import Inflection.Proofs.Pattern.Finding
import Inflection.Proofs.Pattern.Language
import Inflection.Proofs.Pattern.Nesting
import Inflection.Proofs.Rule.RuleSet

/-!
The condition on a root. Its text is read inside a group, with what stands
before the group and after it tied to the ends of the root. A text that is a
pattern by itself stays within the group; a text that is none may end the group
early and still be accepted.
-/

namespace Inflection

namespace Rule.Precondition

open Pattern (Node Place Reader)
open Pattern.Reader (Reads)

/-- The group around the text of a condition, with the parts before it. -/
def opening : Pattern.OpenGroup where
  index := none
  flags := {}
  alternatives := []
  parts := [
    { node := Node.repeated 0 none true (Node.ofSet (CharSet.single '\n').compl), height := 1 },
    { node := .look .startOfText }]

theorem reads_opening (text : List Char) :
    Reads {} ("^.*(?:".toList ++ text) (Reader.within {} opening) text :=
  .step rfl <| .step rfl <| .step rfl <| .step rfl <| .refl _ _

/-- The pattern around a condition is read inside the group that it opens. -/
theorem read?_patternText_iff {source : String} {whole : Reader} :
    Reader.read? {} (patternText source) = some whole ↔
      ∃ rest, Reads (Reader.within {} opening) (source.toList ++ ")$".toList) whole rest ∧
        whole.flags.skip rest = [] := by
  have htext : patternText source = "^.*(?:".toList ++ (source.toList ++ ")$".toList) :=
    List.append_assoc _ _ _
  rw [Reader.read?_eq_some_iff, htext]
  constructor
  · rintro ⟨rest, hreads, hskip⟩
    exact ⟨rest, (reads_opening _).of_next?_eq_none hreads (Reader.next?_eq_none_of_skip hskip), hskip⟩
  · rintro ⟨rest, hreads, hskip⟩
    exact ⟨rest, (reads_opening _).trans hreads, hskip⟩

/-- The text of a condition is read to its end, after which the group around it ends, or to a
closing parenthesis that ends the group early. -/
theorem read_cases {source : String} {whole : Reader}
    (h : Reader.read? {} (patternText source) = some whole) (houter : whole.outer = []) :
    (∃ r, Reader.read? {} source.toList = some r ∧ r.outer = [] ∧
        whole = (r.close opening).pushLook .endOfText) ∨
      ∃ r left after, Reads {} source.toList r left ∧ r.outer = [] ∧
        r.flags.skip left = ')' :: after ∧
          (r.close opening).read? (after ++ ")$".toList) = some whole := by
  obtain ⟨rest, hreads, hrest⟩ := read?_patternText_iff.1 h
  obtain ⟨r, left, after, hr, hr_outer, hleft, hafter⟩ :=
    hreads.of_within_append (by decide) houter
  cases hskip : r.flags.skip left with
  | nil =>
    rw [hskip] at hleft
    obtain ⟨-, rfl⟩ := List.cons.inj hleft
    have hend : Reads (r.close opening) "$".toList ((r.close opening).pushLook .endOfText) [] :=
      .step rfl (.refl _ _)
    obtain ⟨rfl, -⟩ := (hend.of_next?_eq_none hafter
      (Reader.next?_eq_none_of_skip hrest)).eq_of_next?_eq_none rfl
    exact .inl ⟨r, Reader.read?_eq_some_iff.2 ⟨left, hr, hskip⟩, hr_outer, rfl⟩
  | cons c after' =>
    rw [hskip] at hleft
    obtain ⟨rfl, rfl⟩ := List.cons.inj hleft
    exact .inr ⟨r, left, after', hr, hr_outer, hskip,
      Reader.read?_eq_some_iff.2 ⟨rest, hafter, hrest⟩⟩

/-- The pattern around a condition that is a pattern by itself. -/
theorem node_of_ofText? {source : String} {pattern p : Pattern}
    (hpattern : Pattern.ofText? (patternText source) = some pattern)
    (hp : Pattern.ofText? source.toList = some p) :
    pattern.node = Node.sequence [.look .startOfText,
      Node.repeated 0 none true (Node.ofSet (CharSet.single '\n').compl), p.node,
      .look .endOfText] := by
  obtain ⟨whole, hwhole, hpattern⟩ := Option.bind_eq_some_iff.1 hpattern
  obtain ⟨alone, halone, hp⟩ := Option.bind_eq_some_iff.1 hp
  obtain ⟨hcomplete, -, hnode⟩ := Pattern.Reader.of_pattern? hpattern
  obtain ⟨-, -, hnode'⟩ := Pattern.Reader.of_pattern? hp
  rcases read_cases hwhole (Pattern.Reader.outer_of_isComplete hcomplete) with
    ⟨r, hr, -, rfl⟩ | ⟨r, left, after, hr, houter, hskip, -⟩
  · obtain rfl := Option.some.inj (halone.symm.trans hr)
    rw [hnode, hnode']
    rfl
  · -- a text that is a pattern by itself does not stop at a closing parenthesis
    obtain ⟨rest, halone, hrest⟩ := Reader.read?_eq_some_iff.1 halone
    obtain ⟨rfl, rfl⟩ := (hr.of_next?_eq_none halone
      (Reader.next?_eq_none_of_skip hrest)).eq_of_next?_eq_none
        (Reader.next?_eq_none_of_close houter hskip)
    rw [hskip] at hrest
    contradiction

theorem contains_dot (c : Char) : (CharSet.single '\n').compl.contains c = true ↔ c ≠ '\n' := by
  rw [CharSet.contains_compl, Bool.not_eq_true', ← Bool.not_eq_true, CharSet.contains_single]

theorem leads_dots {p q : Place} :
    (Node.repeated 0 none true (Node.ofSet (CharSet.single '\n').compl)).Leads p q ↔
      ∃ head, '\n' ∉ head ∧ Place.Reads head p q := by
  have hset : (Node.ofSet (CharSet.single '\n').compl).Leads =
      (Node.set (CharSet.single '\n').compl).Leads :=
    funext fun p => funext fun q => propext Node.leads_ofSet
  have htimes : Node.repeated 0 none true (Node.ofSet (CharSet.single '\n').compl) =
      .times 0 none true (Node.ofSet (CharSet.single '\n').compl) := by
    simp [Node.repeated]
  rw [htimes, Node.Leads, hset]
  simp only [Node.repeated_set, contains_dot]
  constructor
  · rintro ⟨_, _, _, head, _, hhead, hreads⟩
    exact ⟨head, fun hmem => hhead _ hmem rfl, hreads⟩
  · rintro ⟨head, hhead, hreads⟩
    refine ⟨head.length, Nat.zero_le _, by simp, head, rfl, ?_, hreads⟩
    rintro c hc rfl
    exact hhead hc

/-- Matching anything up to a place on the first line and then a node up to the end. -/
theorem leads_iff {node : Node} {p q : Place} :
    Node.LeadsAll [.look .startOfText,
        Node.repeated 0 none true (Node.ofSet (CharSet.single '\n').compl), node,
        .look .endOfText] p q ↔
      p.before = none ∧ ∃ head m, '\n' ∉ head ∧ Place.Reads head p m ∧ node.Leads m q ∧
        q.rest = [] := by
  simp only [Node.LeadsAll, Node.Leads, leads_dots, Pattern.Boundary.holds, Option.isNone_iff_eq_none,
    List.head?_eq_none_iff]
  constructor
  · rintro ⟨_, ⟨hbefore, rfl⟩, m, ⟨head, hhead, hreads⟩, _, hleads, _, ⟨hend, rfl⟩, rfl⟩
    exact ⟨hbefore, head, m, hhead, hreads, hleads, hend⟩
  · rintro ⟨hbefore, head, m, hhead, hreads, hleads, hend⟩
    exact ⟨p, ⟨hbefore, rfl⟩, m, ⟨head, hhead, hreads⟩, q, hleads, q, ⟨hend, rfl⟩, rfl⟩

theorem isSatisfiedBy_iff {condition : Precondition} {p : Pattern} {root : String}
    (hpattern : Pattern.ofText? (patternText condition.source) = some condition.pattern)
    (hp : Pattern.ofText? condition.source.toList = some p) (hfree : p.node.isLookFree) :
    condition.isSatisfiedBy root = true ↔
      ∃ head tail, root.toList = head ++ tail ∧ '\n' ∉ head ∧ p.node.Matches tail := by
  rw [isSatisfiedBy, Pattern.isFoundIn, Pattern.isSome_find?_iff]
  simp only [Pattern.leads_anywhere, node_of_ofText? hpattern hp, Node.leads_sequence, leads_iff]
  constructor
  · rintro ⟨_, start, rest, m, hroot, ⟨hbefore, head, m', hhead, hreads, hleads, hend⟩, rfl⟩
    have hstart : start = [] := by simpa [Place.mark, Place.start] using hbefore
    obtain ⟨rest', hrest, rfl⟩ := hreads
    obtain ⟨tail, htail, hmatches⟩ := Node.matches_of_leads hleads
    simp only [Place.mark, Place.after_rest, hend, List.append_nil] at hrest htail
    exact ⟨head, tail, by rw [hroot, hstart, hrest, htail, List.nil_append], hhead, hmatches⟩
  · rintro ⟨head, tail, hroot, hhead, hmatches⟩
    let first := ((Place.start root.toList).after [] root.toList).mark 0 true
    obtain ⟨q, hleads, hq⟩ := @Node.leads_of_matches _ hfree tail [] (first.after head tail) hmatches
      (List.append_nil tail).symm
    exact ⟨_, [], root.toList, q, rfl, ⟨rfl, head, first.after head tail, hhead,
      ⟨tail, hroot, rfl⟩, hleads, hq⟩, rfl⟩

/-- The condition of a rule that is a pattern by itself and sets no condition on the place holds
of the roots that end with a text that it matches in full, where what stands before that text is
on one line. -/
theorem satisfied_iff_of_ofText {text source : String} {tokens : Tokens} {rules : RuleSet}
    {p : Pattern} (htokens : Tokens.ofText text = .ok tokens)
    (hsource : tokens.precondition = some source) (hrules : RuleSet.ofText text = .ok rules)
    (hp : Pattern.ofText? source.toList = some p) (hfree : p.node.isLookFree) :
    ∃ condition, rules.precondition = some condition ∧ condition.source = source ∧
      ∀ root, condition.isSatisfiedBy root = true ↔
        ∃ head tail, root.toList = head ++ tail ∧ '\n' ∉ head ∧ p.node.Matches tail := by
  obtain ⟨tokens', htokens', hdeclared⟩ := RuleSet.ofText_eq_ok_iff.1 hrules
  obtain rfl := Except.ok.inj (htokens.symm.trans htokens')
  have hprecondition := hdeclared.precondition
  rw [hsource] at hprecondition
  obtain ⟨condition, hcondition, hsome⟩ := map_eq_ok_iff.1 hprecondition
  obtain ⟨rfl, hpattern⟩ := ofSource_eq_ok_iff.1 hcondition
  exact ⟨condition, hsome.symm, rfl, fun root => isSatisfiedBy_iff hpattern hp hfree⟩

theorem satisfied_iff_vowel : ∃ rules condition p,
    RuleSet.ofText "0, [аоу]й|ь\nя" = .ok rules ∧ rules.precondition = some condition ∧
      Pattern.ofText? "[аоу]й|ь".toList = some p ∧
        ∀ root, condition.isSatisfiedBy root = true ↔
          ∃ head tail, root.toList = head ++ tail ∧ '\n' ∉ head ∧ p.node.Matches tail := by
  have haccepted : (RuleSet.ofText "0, [аоу]й|ь\nя").toOption.any (fun _ => true) = true := by
    decide +kernel
  have hsource : (Pattern.ofText? "[аоу]й|ь".toList).any (·.node.isLookFree) = true := by
    decide +kernel
  have htokens : Tokens.ofText "0, [аоу]й|ь\nя" = .ok ⟨"0", some "[аоу]й|ь", ["я"]⟩ := by
    decide +kernel
  obtain ⟨p, hp, hfree⟩ := (Option.any_eq_true _ _).1 hsource
  obtain ⟨rules, hrules, -⟩ := exists_eq_ok_of_any haccepted
  obtain ⟨condition, hcondition, -, hiff⟩ := satisfied_iff_of_ofText htokens rfl hrules hp hfree
  exact ⟨rules, condition, p, hrules, hcondition, hp, hiff⟩

/-- Whether a text by itself follows the grammar of patterns. -/
def isWellFormed (source : String) : Bool :=
  (Reader.read? {} source.toList).any Reader.isComplete

/-- Whether a text ends the group around it before its own end, by a closing parenthesis that ends
no group of its own, and what follows makes a pattern of the whole. -/
def Escapes (source : String) : Prop :=
  ∃ r left after, Reads {} source.toList r left ∧ r.outer = [] ∧
    r.flags.skip left = ')' :: after ∧
      ((r.close opening).read? (after ++ ")$".toList)).any (·.pattern?.isSome)

theorem isComplete_of_close {r : Reader} (houter : r.outer = [])
    (h : ((r.close opening).pushLook .endOfText).isComplete = true) : r.isComplete = true := by
  simp only [Reader.isComplete, houter, List.isEmpty_nil, Bool.true_and, decide_eq_true_eq,
    Bool.and_eq_true] at h ⊢
  have hheight : ((r.close opening).pushLook .endOfText).piece.height =
      max (max (max (max 0 0) (r.piece.height + 1)) 1) 0 + 1 := rfl
  omega

theorem exists_ofText?_iff_escapes {source : String} (h : isWellFormed source = false) :
    Pattern.ofText? (patternText source) ≠ none ↔ Escapes source := by
  constructor
  · intro hpattern
    obtain ⟨pattern, hpattern⟩ := Option.ne_none_iff_exists'.1 hpattern
    obtain ⟨whole, hwhole, hpattern⟩ := Option.bind_eq_some_iff.1 hpattern
    obtain ⟨hcomplete, -⟩ := Pattern.Reader.of_pattern? hpattern
    rcases read_cases hwhole (Pattern.Reader.outer_of_isComplete hcomplete) with
      ⟨r, hr, houter, rfl⟩ | ⟨r, left, after, hr, houter, hskip, hwhole⟩
    · rw [isWellFormed, hr, Option.any_some, isComplete_of_close houter hcomplete] at h
      contradiction
    · exact ⟨r, left, after, hr, houter, hskip, by rw [hwhole, Option.any_some, hpattern]; rfl⟩
  · rintro ⟨r, left, after, hr, houter, hskip, hwhole⟩
    obtain ⟨whole, hread, hsome⟩ := (Option.any_eq_true _ _).1 hwhole
    obtain ⟨pattern, hpattern⟩ := Option.isSome_iff_exists.1 hsome
    obtain ⟨rest, hreads, hrest⟩ := Reader.read?_eq_some_iff.1 hread
    have hread : Reader.read? {} (patternText source) = some whole :=
      read?_patternText_iff.2 ⟨rest, (hr.within_append ")$".toList houter hskip).trans hreads, hrest⟩
    simp [Pattern.ofText?, hread, hpattern]

/-- The text of a condition that is no pattern by itself is refused unless it ends the group
around it before its own end. -/
theorem refused_iff_not_escapes {text source : String} {tokens : Tokens}
    (htokens : Tokens.ofText text = .ok tokens) (hentries : tokens.entries ≠ [])
    (hsource : tokens.precondition = some source) (hmalformed : isWellFormed source = false) :
    RuleSet.ofText text = .error (.invalidPrecondition source) ↔ ¬ Escapes source := by
  rw [RuleSet.ofText_eq_error_invalidPrecondition_iff htokens hentries hsource,
    ← exists_ofText?_iff_escapes hmalformed, not_not]

theorem refused_iff_not_escapes_unclosed :
    isWellFormed "[а" = false ∧
      (RuleSet.ofText "а, [а\nи" = .error (.invalidPrecondition "[а") ↔ ¬ Escapes "[а") := by
  have htokens : Tokens.ofText "а, [а\nи" = .ok ⟨"а", some "[а", ["и"]⟩ := by decide +kernel
  have hmalformed : isWellFormed "[а" = false := by decide +kernel
  exact ⟨hmalformed, refused_iff_not_escapes htokens (by decide) rfl hmalformed⟩

/-- A text that closes the group around it and opens another is no pattern by itself. It is
accepted, and then roots that do not end with a match are let through. -/
theorem accepted_of_early_close :
    isWellFormed "a)|(?:b" = false ∧
      (RuleSet.ofText "0, a)|(?:b\nx").toOption.any
        (fun rules => rules.precondition.any (·.isSatisfiedBy "cabc")) = true := by
  decide +kernel

end Rule.Precondition

end Inflection
