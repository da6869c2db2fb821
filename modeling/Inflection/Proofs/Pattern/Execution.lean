import Inflection.Proofs.Pattern.Meaning

/-!
The program of a node does what the node stands for. A stretch of a program
with an entry and an exit realizes a relation between places if the runs from
its entry to the end are those that pass its exit at a related place.
Stretches are composed as the nodes are.
-/

namespace Inflection.Pattern

/-- So many steps from one value to another. -/
inductive Walk {α : Type} (following : α → List α) : Nat → α → α → Prop
  | here (a : α) : Walk following 0 a a
  | on {a m b : α} {n : Nat} (first : m ∈ following a) (rest : Walk following n m b) :
      Walk following (n + 1) a b

theorem Walk.trans {α : Type} {following : α → List α} {n k : Nat} {a b c : α}
    (left : Walk following n a b) (right : Walk following k b c) :
    Walk following (n + k) a c := by
  induction left with
  | here => rwa [Nat.zero_add]
  | on first _ ih =>
    rw [Nat.add_right_comm]
    exact .on first (ih right)

namespace Program

variable {program : Program}

/-- What is done between the address `entry` and the address `exit`. -/
structure Realizes (program : Program) (entry exit : Nat) (step : Place → Place → Prop) :
    Prop where
  complete : ∀ {p q : Place}, step p q →
    ∃ n, Walk program.following n (p.thread entry) (q.thread exit)
  sound : ∀ {n : Nat} {p : Place} {last : Thread},
    Walk program.following n (p.thread entry) last → program.accepts last = true →
      ∃ m q, m ≤ n ∧ step p q ∧ Walk program.following m (q.thread exit) last

namespace Realizes

variable {entry middle exit : Nat} {first second step : Place → Place → Prop}

theorem congr (h : program.Realizes entry exit first)
    (same : ∀ p q, first p q ↔ second p q) : program.Realizes entry exit second where
  complete hstep := h.complete ((same _ _).2 hstep)
  sound walk accepted := by
    obtain ⟨m, q, hm, hstep, hwalk⟩ := h.sound walk accepted
    exact ⟨m, q, hm, (same _ _).1 hstep, hwalk⟩

theorem refl (entry : Nat) : program.Realizes entry entry fun p q => q = p where
  complete := by
    rintro p q rfl
    exact ⟨0, .here _⟩
  sound walk _ := ⟨_, _, Nat.le_refl _, rfl, walk⟩

/-- One stretch after another. -/
theorem trans (left : program.Realizes entry middle first)
    (right : program.Realizes middle exit second) :
    program.Realizes entry exit fun p q => ∃ m, first p m ∧ second m q where
  complete := by
    rintro p q ⟨m, hfirst, hsecond⟩
    obtain ⟨n, hn⟩ := left.complete hfirst
    obtain ⟨k, hk⟩ := right.complete hsecond
    exact ⟨n + k, hn.trans hk⟩
  sound walk accepted := by
    obtain ⟨n, m, hn, hfirst, hwalk⟩ := left.sound walk accepted
    obtain ⟨k, q, hk, hsecond, hwalk⟩ := right.sound hwalk accepted
    exact ⟨k, q, Nat.le_trans hk hn, ⟨m, hfirst, hsecond⟩, hwalk⟩

/-- One instruction that leads to one address. -/
theorem of_following (accepts : ∀ p : Place, program.accepts (p.thread entry) = false)
    (h : ∀ p : Place, ∀ t, t ∈ program.following (p.thread entry) ↔
      ∃ q, step p q ∧ t = q.thread exit) :
    program.Realizes entry exit step where
  complete hstep := ⟨1, .on ((h _ _).2 ⟨_, hstep, rfl⟩) (.here _)⟩
  sound walk accepted := by
    cases walk with
    | here => rw [accepts] at accepted; contradiction
    | on hmem hwalk =>
      obtain ⟨q, hstep, rfl⟩ := (h _ _).1 hmem
      exact ⟨_, q, Nat.le_succ _, hstep, hwalk⟩

/-- An instruction that leads to either of two stretches with one exit. -/
theorem fork {left right : Nat} (accepts : ∀ p : Place, program.accepts (p.thread entry) = false)
    (h : ∀ p : Place, ∀ t, t ∈ program.following (p.thread entry) ↔
      t = p.thread left ∨ t = p.thread right)
    (hleft : program.Realizes left exit first) (hright : program.Realizes right exit second) :
    program.Realizes entry exit fun p q => first p q ∨ second p q where
  complete := by
    rintro p q (hstep | hstep)
    · obtain ⟨n, hn⟩ := hleft.complete hstep
      exact ⟨n + 1, .on ((h _ _).2 (.inl rfl)) hn⟩
    · obtain ⟨n, hn⟩ := hright.complete hstep
      exact ⟨n + 1, .on ((h _ _).2 (.inr rfl)) hn⟩
  sound walk accepted := by
    cases walk with
    | here => rw [accepts] at accepted; contradiction
    | on hmem hwalk =>
      rcases (h _ _).1 hmem with rfl | rfl
      · obtain ⟨m, q, hm, hstep, hwalk⟩ := hleft.sound hwalk accepted
        exact ⟨m, q, Nat.le_succ_of_le hm, .inl hstep, hwalk⟩
      · obtain ⟨m, q, hm, hstep, hwalk⟩ := hright.sound hwalk accepted
        exact ⟨m, q, Nat.le_succ_of_le hm, .inr hstep, hwalk⟩

/-- An instruction that leads on, or to a stretch that leads back to it. -/
theorem loop (accepts : ∀ p : Place, program.accepts (p.thread middle) = false)
    (h : ∀ p : Place, ∀ t, t ∈ program.following (p.thread middle) ↔
      t = p.thread entry ∨ t = p.thread exit)
    (body : program.Realizes entry middle step) :
    program.Realizes middle exit fun p q => ∃ count, Repeated step count p q where
  complete := by
    rintro p q ⟨count, hcount⟩
    induction count generalizing p with
    | zero =>
      obtain rfl : q = p := hcount
      exact ⟨1, .on ((h _ _).2 (.inr rfl)) (.here _)⟩
    | succ count ih =>
      obtain ⟨m, hstep, hrest⟩ := hcount
      obtain ⟨n, hn⟩ := body.complete hstep
      obtain ⟨k, hk⟩ := ih hrest
      exact ⟨n + k + 1, .on ((h _ _).2 (.inl rfl)) (hn.trans hk)⟩
  sound := by
    -- each round passes the instruction itself, so the walk that is left is shorter
    intro n
    induction n using Nat.strongRecOn with
    | _ n ih =>
      intro p last walk accepted
      cases walk with
      | here => rw [accepts] at accepted; contradiction
      | on hmem hwalk =>
        rcases (h _ _).1 hmem with rfl | rfl
        · obtain ⟨k, m, hk, hstep, hwalk⟩ := body.sound hwalk accepted
          obtain ⟨j, q, hj, ⟨count, hcount⟩, hwalk⟩ := ih k (by omega) hwalk accepted
          exact ⟨j, q, by omega, ⟨count + 1, m, hstep, hcount⟩, hwalk⟩
        · exact ⟨_, p, Nat.le_succ _, ⟨0, rfl⟩, hwalk⟩

end Realizes

/-- Whether the instructions from the address `base` on are the given ones. -/
def Holds (program : Program) (base : Nat) (code : List Instruction) : Prop :=
  ∃ front back, program.instructions.toList = front ++ code ++ back ∧ front.length = base

namespace Holds

variable {base : Nat} {code first second : List Instruction} {i : Instruction}

theorem left (h : program.Holds base (first ++ second)) : program.Holds base first := by
  obtain ⟨front, back, heq, hbase⟩ := h
  exact ⟨front, second ++ back, by simpa only [List.append_assoc] using heq, hbase⟩

theorem right (h : program.Holds base (first ++ second)) :
    program.Holds (base + first.length) second := by
  obtain ⟨front, back, heq, hbase⟩ := h
  refine ⟨front ++ first, back, by simpa only [List.append_assoc] using heq, ?_⟩
  rw [List.length_append, hbase]

theorem tail (h : program.Holds base (i :: code)) : program.Holds (base + 1) code :=
  @right program base [i] code h

theorem head (h : program.Holds base (i :: code)) : program.instructions[base]? = some i := by
  obtain ⟨front, back, heq, rfl⟩ := h
  rw [← Array.getElem?_toList, heq]
  simp

end Holds

section Instructions

variable {entry exit : Nat} {i : Instruction}

theorem accepts_thread (h : program.instructions[entry]? = some i) (hi : i ≠ .accept) (p : Place) :
    program.accepts (p.thread entry) = false := by
  simpa [accepts, Place.thread, h] using hi

theorem mem_take {p : Place} {holds : Char → Bool} {next : Nat} {t : Thread} :
    t ∈ (p.thread entry).take holds next ↔
      ∃ c, holds c ∧ ∃ q, Place.Reads [c] p q ∧ t = q.thread next := by
  cases hrest : p.rest with
  | nil => simp [Thread.take, Place.thread, Place.Reads, hrest]
  | cons first rest =>
    have hreads {c : Char} {q : Place} :
        Place.Reads [c] p q ↔ c = first ∧ q = p.after [first] rest := by
      constructor
      · rintro ⟨rest', hrest', rfl⟩
        obtain ⟨rfl, rfl⟩ := List.cons.inj (hrest.symm.trans hrest')
        exact ⟨rfl, rfl⟩
      · rintro ⟨rfl, rfl⟩
        exact ⟨rest, hrest, rfl⟩
    simp only [hreads]
    by_cases hfirst : holds first
    · constructor
      · intro ht
        refine ⟨first, hfirst, _, ⟨rfl, rfl⟩, ?_⟩
        simpa [Thread.take, Place.thread, hrest, hfirst] using ht
      · rintro ⟨c, hc, q, ⟨rfl, rfl⟩, rfl⟩
        simp [Thread.take, Place.thread, Place.after, hrest, hfirst]
    · constructor
      · intro ht
        simp [Thread.take, Place.thread, hrest, hfirst] at ht
      · rintro ⟨c, hc, q, ⟨rfl, rfl⟩, rfl⟩
        exact absurd hc hfirst

theorem realizes_jump (h : program.instructions[entry]? = some (.jump exit)) :
    program.Realizes entry exit fun p q => q = p :=
  .of_following (accepts_thread h (by simp)) fun p t => by
    simp [following, Place.thread, h]

theorem realizes_literal {c : Char} (h : program.instructions[entry]? = some (.literal c exit)) :
    program.Realizes entry exit (Place.Reads [c]) :=
  .of_following (accepts_thread h (by simp)) fun p t => by
    simp only [following, Place.thread_address, h, mem_take, beq_iff_eq, exists_eq_left]

theorem realizes_take {members : CharSet}
    (h : program.instructions[entry]? = some (.take members exit)) :
    program.Realizes entry exit fun p q => ∃ c, members.contains c ∧ Place.Reads [c] p q :=
  .of_following (accepts_thread h (by simp)) fun p t => by
    simp only [following, Place.thread_address, h, mem_take]
    constructor
    · rintro ⟨c, hc, q, hq, ht⟩
      exact ⟨q, ⟨c, hc, hq⟩, ht⟩
    · rintro ⟨q, ⟨c, hc, hq⟩, ht⟩
      exact ⟨c, hc, q, hq, ht⟩

theorem realizes_look {boundary : Boundary}
    (h : program.instructions[entry]? = some (.look boundary exit)) :
    program.Realizes entry exit fun p q => boundary.holds p.before p.rest.head? ∧ q = p :=
  .of_following (accepts_thread h (by simp)) fun p t => by
    by_cases hholds : boundary.holds p.before p.rest.head?
    · simp [following, Place.thread, h, hholds]
    · simp [following, Place.thread, h, hholds]

/-- An end of a group is noted. -/
theorem realizes_mark {index : Nat} (opens : Bool)
    (h : program.instructions[entry]? =
      some (if opens then .openGroup index exit else .closeGroup index exit)) :
    program.Realizes entry exit fun p q => q = p.mark index opens :=
  .of_following (accepts_thread h (by cases opens <;> simp)) fun p t => by
    cases opens <;> simp [following, Place.thread, h, Thread.mark, Place.mark]

theorem again_ne_accept (greedy : Bool) (round on : Nat) :
    Instruction.again greedy round on ≠ .accept := by
  cases greedy <;> simp [Instruction.again]

theorem mem_following_again (greedy : Bool) {round on : Nat}
    (h : program.instructions[entry]? = some (.again greedy round on)) (p : Place) (t : Thread) :
    t ∈ program.following (p.thread entry) ↔ t = p.thread round ∨ t = p.thread on := by
  cases greedy <;> simp [following, Place.thread, h, Instruction.again, or_comm]

end Instructions

end Program

namespace Node

theorem length_literalCode (base next : Nat) (text : List Char) :
    (literalCode base next text).length = text.length + 1 := by
  induction text generalizing base with
  | nil => rfl
  | cons c text ih => simp only [literalCode, List.length_cons, ih]

/-- The first copy comes before the others. -/
theorem copies_succ (code : Nat → Nat → List Instruction) (size base count : Nat) :
    copies code size base (count + 1) =
      code base (base + size) ++ copies code size (base + size) count := by
  have hshift (k : Nat) : base + (k + 1) * size = base + size + k * size := by grind
  simp only [copies, List.range_succ_eq_map, List.flatMap_cons, List.flatMap_map, hshift,
    Nat.zero_mul, Nat.add_zero]

/-- The last copy comes after the others. -/
theorem copies_succ_last (code : Nat → Nat → List Instruction) (size base count : Nat) :
    copies code size base (count + 1) =
      copies code size base count ++ code (base + count * size) (base + (count + 1) * size) := by
  simp only [copies, List.range_succ, List.flatMap_append, List.flatMap_singleton]

theorem length_copies {code : Nat → Nat → List Instruction} {size : Nat}
    (h : ∀ base next, (code base next).length = size) (base count : Nat) :
    (copies code size base count).length = count * size := by
  induction count generalizing base with
  | zero => simp [copies]
  | succ count ih =>
    rw [copies_succ, List.length_append, h, ih, Nat.succ_mul, Nat.add_comm]

theorem length_code (node : Node) (base next : Nat) : (node.code base next).length = node.size := by
  induction node generalizing base next with
  | empty | set | look => rfl
  | literal text => exact length_literalCode base next text
  | group index body ih => simp [code, size, ih]
  | seq first second ih₁ ih₂ => simp [code, size, ih₁, ih₂]
  | alt first second ih₁ ih₂ =>
    simp only [code, size, List.cons_append, List.length_cons, List.length_append, ih₁, ih₂]
  | times low high greedy body ih =>
    have hoptional : ∀ base after, (Instruction.again greedy (base + 1) next ::
        body.code (base + 1) after).length = body.size + 1 := by
      intro base after
      rw [List.length_cons, ih]
    cases high with
    | some high =>
      simp only [code, size, List.length_append, length_copies ih, length_copies hoptional,
        List.length_singleton]
    | none =>
      cases low with
      | zero =>
        by_cases htakes : body.takesCharacters <;> simp [code, size, ih, htakes]
      | succ low => simp only [code, size, List.length_append, length_copies ih, List.length_singleton]

end Node

namespace Program

variable {program : Program}

theorem realizes_literalCode {base next : Nat} {text : List Char}
    (h : program.Holds base (Node.literalCode base next text)) :
    program.Realizes base next (Place.Reads text) := by
  induction text generalizing base with
  | nil => exact (realizes_jump h.head).congr fun p q => Place.reads_nil.symm
  | cons c text ih =>
    refine ((realizes_literal h.head).trans (ih h.tail)).congr fun p q => ?_
    exact Place.reads_cons.symm

section Copies

variable {size : Nat} {step : Place → Place → Prop} {body : Nat → Nat → List Instruction}

theorem realizes_copies {base count : Nat} (hsize : ∀ base next, (body base next).length = size)
    (hbody : ∀ base next, program.Holds base (body base next) → program.Realizes base next step)
    (h : program.Holds base (Node.copies body size base count)) :
    program.Realizes base (base + count * size) (Repeated step count) := by
  induction count generalizing base with
  | zero =>
    rw [Nat.zero_mul, Nat.add_zero]
    exact .refl base
  | succ count ih =>
    rw [Node.copies_succ] at h
    have hrest := h.right
    rw [hsize] at hrest
    rw [show base + (count + 1) * size = base + size + count * size by grind]
    exact (hbody _ _ h.left).trans (ih hrest)

/-- Copies that may each be the last lead as far as any number of them. -/
theorem realizes_optional {greedy : Bool} {base next count : Nat}
    (hsize : ∀ base next, (body base next).length = size)
    (hbody : ∀ base next, program.Holds base (body base next) → program.Realizes base next step)
    (h : program.Holds base (Node.copies
      (fun base after => Instruction.again greedy (base + 1) next :: body (base + 1) after)
      (size + 1) base count ++ [.jump next])) :
    program.Realizes base next fun p q => ∃ k, k ≤ count ∧ Repeated step k p q := by
  induction count generalizing base with
  | zero =>
    refine (@realizes_jump program base next h.head).congr fun p q => ?_
    simp [Repeated]
  | succ count ih =>
    rw [Node.copies_succ, List.append_assoc] at h
    have hfirst := h.left
    have hrest := h.right
    rw [List.length_cons, hsize] at hrest
    refine (Realizes.fork (accepts_thread hfirst.head (again_ne_accept _ _ _))
      (mem_following_again _ hfirst.head) ((hbody _ _ hfirst.tail).trans (ih hrest))
      (.refl next)).congr fun p q => ?_
    constructor
    · rintro (⟨m, hstep, k, hk, hrest⟩ | rfl)
      · exact ⟨k + 1, Nat.succ_le_succ hk, m, hstep, hrest⟩
      · exact ⟨0, Nat.zero_le _, rfl⟩
    · rintro ⟨k, hk, hrest⟩
      cases k with
      | zero => exact .inr hrest
      | succ k =>
        obtain ⟨m, hstep, hrest⟩ := hrest
        exact .inl ⟨m, hstep, k, Nat.le_of_succ_le_succ hk, hrest⟩

end Copies

section Times

variable {body : Node} {greedy : Bool} {base next : Nat}

theorem realizes_bounded {low high : Nat}
    (hbody : ∀ base next, program.Holds base (body.code base next) →
      program.Realizes base next body.Leads)
    (h : program.Holds base ((Node.times low (some high) greedy body).code base next)) :
    program.Realizes base next (Node.times low (some high) greedy body).Leads := by
  have hoptional := h
  simp only [Node.code, List.append_assoc] at h hoptional
  replace hoptional := hoptional.right
  rw [Node.length_copies body.length_code] at hoptional
  refine ((realizes_copies body.length_code hbody h.left).trans
    (realizes_optional body.length_code hbody hoptional)).congr fun p q => ?_
  simp only [Node.Leads, Option.mem_some_iff, forall_eq']
  constructor
  · rintro ⟨m, hlow, k, hk, hrest⟩
    exact ⟨low + k, by omega, by omega, repeated_add.2 ⟨m, hlow, hrest⟩⟩
  · rintro ⟨count, hlow, hhigh, hcount⟩
    rw [show count = low + (count - low) by omega, repeated_add] at hcount
    obtain ⟨m, hleft, hright⟩ := hcount
    exact ⟨m, hleft, count - low, by omega, hright⟩

/-- The last of the copies is the one that is repeated. -/
theorem realizes_atLeast {low : Nat}
    (hbody : ∀ base next, program.Holds base (body.code base next) →
      program.Realizes base next body.Leads)
    (h : program.Holds base ((Node.times (low + 1) none greedy body).code base next)) :
    program.Realizes base next (Node.times (low + 1) none greedy body).Leads := by
  have hagain := Holds.right h
  rw [Node.length_copies body.length_code] at hagain
  have hcopies := Holds.left h
  rw [Node.copies_succ_last] at hcopies
  have hlast := hcopies.right
  rw [Node.length_copies body.length_code] at hlast
  have hbase : base + (low + 1) * body.size - body.size = base + low * body.size := by grind
  have hloop := Realizes.loop (accepts_thread hagain.head (again_ne_accept _ _ _))
    (fun p t => hbase ▸ mem_following_again _ hagain.head p t) (hbody _ _ hlast)
  refine ((realizes_copies body.length_code hbody hcopies.left).trans
    ((hbody _ _ hlast).trans hloop)).congr fun p q => ?_
  simp only [Node.Leads, Option.not_mem_none, false_implies, implies_true, true_and]
  constructor
  · rintro ⟨m, hlow, x, hx, k, hk⟩
    exact ⟨low + (k + 1), by omega, repeated_add.2 ⟨m, hlow, x, hx, hk⟩⟩
  · rintro ⟨count, hlow, hcount⟩
    rw [show count = low + (count - low - 1 + 1) by omega, repeated_add] at hcount
    obtain ⟨m, hleft, x, hx, hright⟩ := hcount
    exact ⟨m, hleft, x, hx, _, hright⟩

theorem realizes_any
    (hbody : ∀ base next, program.Holds base (body.code base next) →
      program.Realizes base next body.Leads)
    (h : program.Holds base ((Node.times 0 none greedy body).code base next)) :
    program.Realizes base next (Node.times 0 none greedy body).Leads := by
  by_cases htakes : body.takesCharacters
  · simp only [Node.code, htakes, if_true] at h
    refine (Realizes.loop (accepts_thread h.head (again_ne_accept _ _ _))
      (mem_following_again _ h.head) (hbody _ _ h.tail)).congr fun p q => ?_
    simp [Node.Leads]
  · simp only [Node.code, htakes, Bool.false_eq_true, if_false, List.cons_append] at h
    have hagain := h.tail.right
    rw [Node.length_code, Nat.add_right_comm] at hagain
    have hround := hbody _ _ h.tail.left
    have hloop := Realizes.loop (accepts_thread hagain.head (again_ne_accept _ _ _))
      (mem_following_again _ hagain.head) hround
    refine (Realizes.fork (accepts_thread h.head (again_ne_accept _ _ _))
      (mem_following_again _ h.head) (hround.trans hloop) (.refl next)).congr fun p q => ?_
    simp only [Node.Leads, Option.not_mem_none, false_implies, implies_true, true_and,
      Nat.zero_le]
    constructor
    · rintro (⟨m, hm, k, hk⟩ | rfl)
      · exact ⟨k + 1, m, hm, hk⟩
      · exact ⟨0, rfl⟩
    · rintro ⟨count, hcount⟩
      cases count with
      | zero => exact .inr hcount
      | succ k =>
        obtain ⟨m, hm, hk⟩ := hcount
        exact .inl ⟨m, hm, k, hk⟩

end Times

theorem realizes_code (node : Node) {base next : Nat} (h : program.Holds base (node.code base next)) :
    program.Realizes base next node.Leads := by
  induction node generalizing base next with
  | empty => exact realizes_jump h.head
  | literal text => exact realizes_literalCode h
  | set members => exact realizes_take h.head
  | look boundary => exact realizes_look h.head
  | group index body ih =>
    have hclose := Holds.right h
    rw [List.length_cons, Node.length_code, show base + (body.size + 1) = base + body.size + 1 by
      omega] at hclose
    refine ((realizes_mark true h.head).trans ((ih h.tail.left).trans
      (realizes_mark false hclose.head))).congr fun p q => ?_
    simp only [Node.Leads, exists_eq_left]
  | seq first second ih₁ ih₂ =>
    have hsecond := Holds.right h
    rw [Node.length_code] at hsecond
    exact (ih₁ h.left).trans (ih₂ hsecond)
  | alt first second ih₁ ih₂ =>
    have hsecond := Holds.right h
    rw [List.length_cons, Node.length_code, show base + (first.size + 1) = base + first.size + 1 by
      omega] at hsecond
    exact .fork (accepts_thread h.head (by simp)) (mem_following_again true h.head)
      (ih₁ h.tail.left) (ih₂ hsecond)
  | times low high greedy body ih =>
    have hbody : ∀ base next, program.Holds base (body.code base next) →
        program.Realizes base next body.Leads := fun _ _ => ih
    cases high with
    | some high => exact realizes_bounded hbody h
    | none =>
      cases low with
      | zero => exact realizes_any hbody h
      | succ low => exact realizes_atLeast hbody h

end Program

end Inflection.Pattern
