import Inflection.Pattern.Basic
import Inflection.Proofs.Pattern.Execution
import Mathlib.Data.Finset.Card

/-!
The search finds what the node of a pattern leads to. A search that follows
only the first of several values with one key still reaches an accepted value
if there is one, as what can be reached depends on the key alone; the number
that bounds its steps is never used up. Which of several matches is found is
not said here.
-/

namespace Inflection.Pattern

section FirstAccepted

variable {α : Type} {key : α → Nat} {accepts : α → Bool} {following : α → List α}

/-- What the search finds is accepted and can be reached. -/
theorem firstAccepted_sound {steps : Nat} {seen : Std.TreeSet Nat} {pending : List α} {b : α}
    (h : firstAccepted key accepts following steps seen pending = some b) :
    accepts b = true ∧ ∃ a ∈ pending, ∃ n, Walk following n a b := by
  fun_induction firstAccepted key accepts following steps seen pending with
  | case1 | case2 => contradiction
  | case3 steps seen a pending hseen ih =>
    obtain ⟨hb, x, hx, hwalk⟩ := ih h
    exact ⟨hb, x, List.mem_cons_of_mem _ hx, hwalk⟩
  | case4 steps seen a pending hseen ha =>
    obtain rfl := Option.some.inj h
    exact ⟨ha, a, List.mem_cons_self, 0, .here a⟩
  | case5 steps seen a pending hseen ha ih =>
    obtain ⟨hb, x, hx, n, hwalk⟩ := ih h
    rcases List.mem_append.1 hx with hx | hx
    · exact ⟨hb, a, List.mem_cons_self, n + 1, .on hx hwalk⟩
    · exact ⟨hb, x, List.mem_cons_of_mem _ hx, n, hwalk⟩

/-- Values of which those with one key are followed by values with the same keys. -/
structure Keyed (key : α → Nat) (accepts : α → Bool) (following : α → List α)
    (valid : α → Prop) (bound : Nat) : Prop where
  key_lt : ∀ {a}, valid a → key a < bound
  valid_of_mem : ∀ {a b}, valid a → b ∈ following a → valid b
  length_le : ∀ a, (following a).length ≤ 2
  accepts_eq : ∀ {a b}, valid a → valid b → key a = key b → accepts a = accepts b
  exists_key : ∀ {a b c}, valid a → valid b → key a = key b → c ∈ following a →
    ∃ d ∈ following b, key d = key c

variable {valid : α → Prop} {bound : Nat}

/-- The keys that have not been seen. -/
def unseen (bound : Nat) (seen : Std.TreeSet Nat) : Finset Nat :=
  (Finset.range bound).filter fun k => seen.contains k = false

theorem card_unseen_insert {seen : Std.TreeSet Nat} {k : Nat} (hk : k < bound)
    (h : seen.contains k = false) :
    (unseen bound (seen.insert k)).card + 1 = (unseen bound seen).card := by
  have herase : unseen bound (seen.insert k) = (unseen bound seen).erase k := by
    ext j
    simp only [unseen, Finset.mem_filter, Finset.mem_range, Finset.mem_erase,
      Std.TreeSet.contains_insert, Bool.or_eq_false_iff, beq_eq_false_iff_ne, ne_eq]
    grind
  rw [herase, Finset.card_erase_add_one]
  simp [unseen, hk, h]

/-- Whether what follows a value is known to come to nothing or still to be tried. -/
def Covered (key : α → Nat) (seen : Std.TreeSet Nat) (pending : List α) (a : α) : Prop :=
  seen.contains (key a) = true ∨ ∃ b ∈ pending, key b = key a

/-- What holds whenever the search goes on: no value that has been seen is accepted, and what
follows one is covered. -/
structure Searched (key : α → Nat) (accepts : α → Bool) (following : α → List α)
    (valid : α → Prop) (seen : Std.TreeSet Nat) (pending : List α) : Prop where
  valid_of_mem : ∀ a ∈ pending, valid a
  rejected : ∀ a, valid a → seen.contains (key a) = true → accepts a = false
  covered : ∀ a, valid a → seen.contains (key a) = true →
    ∀ b ∈ following a, Covered key seen pending b

section Steps

variable {seen : Std.TreeSet Nat} {pending : List α} {a b : α}

theorem Covered.skip (h : Covered key seen (a :: pending) b)
    (hseen : seen.contains (key a) = true) : Covered key seen pending b := by
  rcases h with h | ⟨c, hc, hkey⟩
  · exact .inl h
  · rcases List.mem_cons.1 hc with rfl | hc
    · exact .inl (hkey ▸ hseen)
    · exact .inr ⟨c, hc, hkey⟩

theorem Covered.visit (h : Covered key seen (a :: pending) b) :
    Covered key (seen.insert (key a)) (following a ++ pending) b := by
  rcases h with h | ⟨c, hc, hkey⟩
  · exact .inl (by simp [h])
  · rcases List.mem_cons.1 hc with rfl | hc
    · exact .inl (by simp [hkey])
    · exact .inr ⟨c, List.mem_append_right _ hc, hkey⟩

namespace Searched

/-- With nothing pending, all that is reached has been seen. -/
theorem not_accepts_of_nil (hkeyed : Keyed key accepts following valid bound)
    (h : Searched key accepts following valid seen []) {n : Nat} (ha : valid a)
    (hcovered : Covered key seen [] a) (hwalk : Walk following n a b) : accepts b = false := by
  induction hwalk with
  | here a =>
    rcases hcovered with hseen | ⟨x, hx, _⟩
    · exact h.rejected a ha hseen
    · simp at hx
  | on first _ ih =>
    rcases hcovered with hseen | ⟨x, hx, _⟩
    · exact ih (hkeyed.valid_of_mem ha first) (h.covered _ ha hseen _ first)
    · simp at hx

theorem skip (h : Searched key accepts following valid seen (a :: pending))
    (hseen : seen.contains (key a) = true) :
    Searched key accepts following valid seen pending where
  valid_of_mem b hb := h.valid_of_mem b (List.mem_cons_of_mem _ hb)
  rejected := h.rejected
  covered b hb hkey c hc := (h.covered b hb hkey c hc).skip hseen

theorem visit (hkeyed : Keyed key accepts following valid bound)
    (h : Searched key accepts following valid seen (a :: pending)) (ha : accepts a = false) :
    Searched key accepts following valid (seen.insert (key a)) (following a ++ pending) := by
  have hvalid := h.valid_of_mem a List.mem_cons_self
  have hbefore {b : α} (hb : (seen.insert (key a)).contains (key b) = true) (hne : key b ≠ key a) :
      seen.contains (key b) = true := by
    simpa [Std.TreeSet.contains_insert, Ne.symm hne] using hb
  refine ⟨fun b hb => ?_, fun b hb hseen => ?_, fun b hb hseen c hc => ?_⟩
  · rcases List.mem_append.1 hb with hb | hb
    · exact hkeyed.valid_of_mem hvalid hb
    · exact h.valid_of_mem b (List.mem_cons_of_mem _ hb)
  · by_cases hkey : key b = key a
    · rw [hkeyed.accepts_eq hb hvalid hkey, ha]
    · exact h.rejected b hb (hbefore hseen hkey)
  · by_cases hkey : key b = key a
    · -- what follows a value with the same key has the keys of what is now pending
      obtain ⟨d, hd, hdc⟩ := hkeyed.exists_key hb hvalid hkey hc
      exact .inr ⟨d, List.mem_append_left _ hd, hdc⟩
    · exact (h.covered b hb (hbefore hseen hkey) c hc).visit

end Searched

end Steps

/-- Nothing is accepted after a value that a failed search has covered. Each value that is
looked at either is dropped or uses up a key that had not been seen. -/
theorem not_accepts_of_firstAccepted_eq_none (hkeyed : Keyed key accepts following valid bound)
    {steps : Nat} {seen : Std.TreeSet Nat} {pending : List α}
    (h : firstAccepted key accepts following steps seen pending = none)
    (hsteps : pending.length + 2 * (unseen bound seen).card < steps)
    (hsearched : Searched key accepts following valid seen pending)
    {n : Nat} {a b : α} (ha : valid a) (hcovered : Covered key seen pending a)
    (hwalk : Walk following n a b) : accepts b = false := by
  fun_induction firstAccepted key accepts following steps seen pending with
  | case1 => omega
  | case2 seen steps => exact hsearched.not_accepts_of_nil hkeyed ha hcovered hwalk
  | case3 steps seen x pending hseen ih =>
    rw [List.length_cons] at hsteps
    exact ih h (by omega) (hsearched.skip hseen) (hcovered.skip hseen)
  | case4 => contradiction
  | case5 steps seen x pending hseen hx ih =>
    have hkey := hkeyed.key_lt (hsearched.valid_of_mem x List.mem_cons_self)
    have hcard := card_unseen_insert hkey (Bool.not_eq_true _ ▸ hseen)
    have htwo := hkeyed.length_le x
    have hfuel : (following x ++ pending).length + 2 * (unseen bound (seen.insert (key x))).card <
        steps := by
      simp only [List.length_cons, List.length_append] at hsteps ⊢
      omega
    exact ih h hfuel (hsearched.visit hkeyed (Bool.not_eq_true _ ▸ hx)) hcovered.visit

end FirstAccepted

/-- The addresses that an instruction names. -/
def Instruction.targets : Instruction → List Nat
  | take _ next | literal _ next | look _ next | openGroup _ next | closeGroup _ next |
    jump next => [next]
  | fork first second => [first, second]
  | accept => []

namespace Node

theorem size_pos (node : Node) : 0 < node.size := by
  induction node with
  | times low high greedy body ih =>
    cases high with
    | some high => simp [size]
    | none =>
      cases low with
      | zero => by_cases htakes : body.takesCharacters <;> simp [size, htakes]
      | succ low => simp [size]
  | _ =>
    simp only [size]
    omega

theorem target_of_mem_literalCode {text : List Char} {base next a : Nat} {i : Instruction}
    (hi : i ∈ literalCode base next text) (ha : a ∈ i.targets) :
    a = next ∨ a < base + (text.length + 1) := by
  induction text generalizing base with
  | nil =>
    obtain rfl := List.mem_singleton.1 hi
    exact .inl (List.mem_singleton.1 ha)
  | cons c text ih =>
    rcases List.mem_cons.1 hi with rfl | hi
    · obtain rfl := List.mem_singleton.1 ha
      rw [List.length_cons]
      omega
    · have := ih hi
      rw [List.length_cons]
      omega

theorem target_of_mem_again {greedy : Bool} {round on a : Nat}
    (ha : a ∈ (Instruction.again greedy round on).targets) : a = round ∨ a = on := by
  cases greedy <;> simp [Instruction.again, Instruction.targets] at ha <;> omega

theorem target_of_mem_copies {code : Nat → Nat → List Instruction} {size base count next a : Nat}
    {i : Instruction}
    (hcode : ∀ {base after}, i ∈ code base after → a = next ∨ a = after ∨ a < base + size)
    (hi : i ∈ copies code size base count) : a = next ∨ a ≤ base + count * size := by
  obtain ⟨k, hk, hi⟩ := List.mem_flatMap.1 hi
  have hle : (k + 1) * size ≤ count * size := Nat.mul_le_mul_right _ (List.mem_range.1 hk)
  have hsucc : (k + 1) * size = k * size + size := Nat.succ_mul k size
  have := hcode hi
  omega

section Times

variable {body : Node} {greedy : Bool} {base next a : Nat} {i : Instruction}

theorem target_of_mem_bounded {low high : Nat} (ha : a ∈ i.targets)
    (hbody : ∀ {base after}, i ∈ body.code base after → a = after ∨ a < base + body.size)
    (hi : i ∈ (times low (some high) greedy body).code base next) :
    a = next ∨ a < base + (times low (some high) greedy body).size := by
  have hcopy : ∀ {base after}, i ∈ body.code base after →
      a = next ∨ a = after ∨ a < base + body.size := fun hi => .inr (hbody hi)
  have hoptional : ∀ {base after}, i ∈ Instruction.again greedy (base + 1) next ::
      body.code (base + 1) after → a = next ∨ a = after ∨ a < base + (body.size + 1) := by
    intro base after hi
    rcases List.mem_cons.1 hi with rfl | hi
    · have := target_of_mem_again ha
      have := body.size_pos
      omega
    · have := hbody hi
      omega
  simp only [code, List.mem_append, List.mem_singleton] at hi
  simp only [size]
  rcases hi with (hi | hi) | rfl
  · have := target_of_mem_copies hcopy hi
    omega
  · have := target_of_mem_copies hoptional hi
    omega
  · exact .inl (List.mem_singleton.1 ha)

theorem target_of_mem_atLeast {low : Nat} (ha : a ∈ i.targets)
    (hbody : ∀ {base after}, i ∈ body.code base after → a = after ∨ a < base + body.size)
    (hi : i ∈ (times (low + 1) none greedy body).code base next) :
    a = next ∨ a < base + (times (low + 1) none greedy body).size := by
  have hcopy : ∀ {base after}, i ∈ body.code base after →
      a = next ∨ a = after ∨ a < base + body.size := fun hi => .inr (hbody hi)
  simp only [code, List.mem_append, List.mem_singleton] at hi
  simp only [size]
  rcases hi with hi | rfl
  · have := target_of_mem_copies hcopy hi
    omega
  · have := target_of_mem_again ha
    omega

theorem target_of_mem_any (ha : a ∈ i.targets)
    (hbody : ∀ {base after}, i ∈ body.code base after → a = after ∨ a < base + body.size)
    (hi : i ∈ (times 0 none greedy body).code base next) :
    a = next ∨ a < base + (times 0 none greedy body).size := by
  have := body.size_pos
  by_cases htakes : body.takesCharacters
  · simp only [code, htakes, if_true, List.mem_cons] at hi
    simp only [size, htakes, if_true]
    rcases hi with rfl | hi
    · have := target_of_mem_again ha
      omega
    · have := hbody hi
      omega
  · simp only [code, htakes, Bool.false_eq_true, if_false, List.cons_append, List.mem_cons,
      List.mem_append, List.not_mem_nil, or_false] at hi
    simp only [size, htakes, Bool.false_eq_true, if_false]
    rcases hi with rfl | hi | rfl
    · have := target_of_mem_again ha
      omega
    · have := hbody hi
      omega
    · have := target_of_mem_again ha
      omega

end Times

/-- Code leads to its exit or stays inside itself. -/
theorem target_of_mem_code {node : Node} {base next a : Nat} {i : Instruction}
    (hi : i ∈ node.code base next) (ha : a ∈ i.targets) : a = next ∨ a < base + node.size := by
  induction node generalizing base next with
  | empty | set | look =>
    obtain rfl := List.mem_singleton.1 hi
    exact .inl (List.mem_singleton.1 ha)
  | literal text => exact target_of_mem_literalCode hi ha
  | group index body ih =>
    simp only [code, List.cons_append, List.mem_cons, List.mem_append] at hi
    simp only [size]
    rcases hi with rfl | hi | rfl | hi
    · have := List.mem_singleton.1 ha
      omega
    · have := ih hi
      omega
    · exact .inl (List.mem_singleton.1 ha)
    · contradiction
  | seq first second ih₁ ih₂ =>
    simp only [size]
    rcases List.mem_append.1 hi with hi | hi
    · have := ih₁ hi
      have := second.size_pos
      omega
    · have := ih₂ hi
      omega
  | alt first second ih₁ ih₂ =>
    simp only [code, List.cons_append, List.mem_cons, List.mem_append] at hi
    simp only [size]
    rcases hi with rfl | hi | hi
    · have := second.size_pos
      simp only [Instruction.targets, List.mem_cons, List.not_mem_nil, or_false] at ha
      omega
    · have := ih₁ hi
      omega
    · have := ih₂ hi
      omega
  | times low high greedy body ih =>
    cases high with
    | some high => exact target_of_mem_bounded ha ih hi
    | none =>
      cases low with
      | zero => exact target_of_mem_any ha ih hi
      | succ low => exact target_of_mem_atLeast ha ih hi

end Node

/-- A thread at a place of `text`, with an address below `size`. -/
structure Thread.In (thread : Thread) (text : List Char) (size : Nat) : Prop where
  address_lt : thread.address < size
  offset_le : thread.offset ≤ text.length
  rest_eq : thread.rest = text.drop thread.offset
  before_eq : thread.before = (text.take thread.offset).getLast?

namespace Program

variable {program : Program} {text : List Char}

/-- Whether all addresses that are named are addresses of the program. -/
def IsClosed (program : Program) : Prop :=
  ∀ (address : Nat) (i : Instruction), program.instructions[address]? = some i →
    ∀ a ∈ i.targets, a < program.instructions.size

theorem isClosed_ofNode (node : Node) : (ofNode node).IsClosed := by
  intro address i hi a ha
  have hsize : (ofNode node).instructions.size = node.anywhere.size + 1 := by
    simp [ofNode, Node.length_code]
  have hmem : i ∈ node.anywhere.code 0 node.anywhere.size ++ [.accept] := by
    simpa [ofNode] using Array.mem_of_getElem? hi
  rw [hsize]
  rcases List.mem_append.1 hmem with hcode | haccept
  · have := Node.target_of_mem_code hcode ha
    omega
  · obtain rfl := List.mem_singleton.1 haccept
    simp [Instruction.targets] at ha

/-- What follows a thread is at a target, and either where the thread is or after the
next character. -/
theorem of_mem_following {a b : Thread} (h : b ∈ program.following a) :
    (∃ i, program.instructions[a.address]? = some i ∧ b.address ∈ i.targets) ∧
      ((b.offset = a.offset ∧ b.rest = a.rest ∧ b.before = a.before) ∨
        ∃ c, a.rest = c :: b.rest ∧ b.offset = a.offset + 1 ∧ b.before = some c) := by
  unfold following at h
  split at h
  case h_1 | h_2 => simp at h
  case h_3 members next hi | h_4 c next hi =>
    unfold Thread.take at h
    split at h
    · simp at h
    · split at h
      · obtain rfl := List.mem_singleton.1 h
        exact ⟨⟨_, hi, by simp [Instruction.targets]⟩, .inr ⟨_, by assumption, rfl, rfl⟩⟩
      · simp at h
  case h_5 boundary next hi =>
    split at h
    · obtain rfl := List.mem_singleton.1 h
      exact ⟨⟨_, hi, by simp [Instruction.targets]⟩, .inl ⟨rfl, rfl, rfl⟩⟩
    · simp at h
  case h_6 index next hi | h_7 index next hi | h_9 next hi =>
    obtain rfl := List.mem_singleton.1 h
    exact ⟨⟨_, hi, by simp [Instruction.targets, Thread.mark]⟩, .inl ⟨rfl, rfl, rfl⟩⟩
  case h_8 first second hi =>
    rcases List.mem_pair.1 h with rfl | rfl
    · exact ⟨⟨_, hi, by simp [Instruction.targets]⟩, .inl ⟨rfl, rfl, rfl⟩⟩
    · exact ⟨⟨_, hi, by simp [Instruction.targets]⟩, .inl ⟨rfl, rfl, rfl⟩⟩

theorem in_of_mem_following (hclosed : program.IsClosed) {a b : Thread}
    (ha : a.In text program.instructions.size) (h : b ∈ program.following a) :
    b.In text program.instructions.size := by
  obtain ⟨⟨i, hi, htarget⟩, hplace⟩ := of_mem_following h
  have haddress := hclosed _ i hi _ htarget
  rcases hplace with ⟨hoffset, hrest, hbefore⟩ | ⟨c, hrest, hoffset, hbefore⟩
  · exact ⟨haddress, hoffset ▸ ha.offset_le, hoffset ▸ hrest ▸ ha.rest_eq,
      hoffset ▸ hbefore ▸ ha.before_eq⟩
  · have hdrop : text.drop a.offset = c :: b.rest := ha.rest_eq ▸ hrest
    have hlt : a.offset < text.length := by
      by_contra hge
      rw [List.drop_eq_nil_of_le (by omega)] at hdrop
      contradiction
    have hget : text[a.offset]? = some c := by
      rw [← List.head?_drop, hdrop, List.head?_cons]
    refine ⟨haddress, by omega, ?_, ?_⟩
    · rw [hoffset, ← List.tail_drop, hdrop, List.tail_cons]
    · rw [hbefore, hoffset, List.take_add_one, hget]
      simp

/-- The marks of a thread have no part in what follows it. -/
theorem exists_following_of_marks {a b : Thread} (marks : List GroupMark)
    (h : b ∈ program.following a) :
    ∃ c ∈ program.following { a with marks }, c.address = b.address ∧ c.offset = b.offset := by
  unfold following at h ⊢
  split at h
  case h_1 | h_2 => simp at h
  case h_3 members next hi | h_4 c next hi =>
    simp only [hi]
    unfold Thread.take at h ⊢
    split at h
    · simp at h
    · split at h
      · obtain rfl := List.mem_singleton.1 h
        rename_i hrest hholds
        simp [hrest, hholds]
      · simp at h
  case h_5 boundary next hi =>
    simp only [hi]
    split at h
    · obtain rfl := List.mem_singleton.1 h
      rename_i hholds
      simp [hholds]
    · simp at h
  case h_6 index next hi | h_7 index next hi | h_9 next hi =>
    obtain rfl := List.mem_singleton.1 h
    simp [hi, Thread.mark]
  case h_8 first second hi =>
    rcases List.mem_pair.1 h with rfl | rfl <;> simp [hi]

theorem length_following_le (program : Program) (thread : Thread) :
    (program.following thread).length ≤ 2 := by
  unfold following Thread.take
  repeat' split
  all_goals simp

theorem place_eq_of_key_eq {a b : Thread} (ha : a.In text program.instructions.size)
    (hb : b.In text program.instructions.size) (h : program.key a = program.key b) :
    a.address = b.address ∧ a.offset = b.offset := by
  have hmod := congrArg (· % program.instructions.size) h
  have hdiv := congrArg (· / program.instructions.size) h
  have hpos := Nat.lt_of_le_of_lt (Nat.zero_le _) ha.address_lt
  simp only [key, Nat.mul_add_mod_self_right, Nat.mod_eq_of_lt ha.address_lt,
    Nat.mod_eq_of_lt hb.address_lt] at hmod
  simp only [key, Nat.add_comm (_ * _), Nat.add_mul_div_right _ _ hpos,
    Nat.div_eq_of_lt ha.address_lt, Nat.div_eq_of_lt hb.address_lt, Nat.zero_add] at hdiv
  exact ⟨hmod, hdiv⟩

theorem keyed (hclosed : program.IsClosed) (text : List Char) :
    Keyed program.key program.accepts program.following
      (fun thread => thread.In text program.instructions.size)
      ((text.length + 1) * program.instructions.size) where
  key_lt {a} ha := by
    have hle : a.offset * program.instructions.size ≤ text.length * program.instructions.size :=
      Nat.mul_le_mul_right _ ha.offset_le
    have haddress := ha.address_lt
    rw [key, Nat.succ_mul]
    omega
  valid_of_mem := in_of_mem_following hclosed
  length_le := program.length_following_le
  accepts_eq {a b} ha hb hkey := by
    rw [accepts, accepts, (place_eq_of_key_eq ha hb hkey).1]
  exists_key {a b c} ha hb hkey hc := by
    obtain ⟨haddress, hoffset⟩ := place_eq_of_key_eq ha hb hkey
    have hb' : b = { a with marks := b.marks } := by
      cases a
      cases b
      have := ha.rest_eq
      have := hb.rest_eq
      have := ha.before_eq
      have := hb.before_eq
      simp_all
    obtain ⟨d, hd, haddress, hoffset⟩ := exists_following_of_marks b.marks hc
    exact ⟨d, hb' ▸ hd, by rw [key, key, haddress, hoffset]⟩

/-- The run of a program ends a walk from the start of the text. -/
theorem run_sound {last : Thread} (h : program.run text = some last) :
    program.accepts last = true ∧
      ∃ n, Walk program.following n ((Place.start text).thread 0) last := by
  obtain ⟨haccepts, a, ha, hwalk⟩ := firstAccepted_sound h
  obtain rfl := List.mem_singleton.1 ha
  exact ⟨haccepts, hwalk⟩

/-- A run that comes to nothing leaves no walk to the end. -/
theorem isSome_run (hclosed : program.IsClosed) (hpos : 0 < program.instructions.size)
    {n : Nat} {last : Thread}
    (hwalk : Walk program.following n ((Place.start text).thread 0) last)
    (haccepts : program.accepts last = true) : (program.run text).isSome := by
  by_contra hnone
  have hstart : ((Place.start text).thread 0).In text program.instructions.size :=
    ⟨hpos, Nat.zero_le _, rfl, rfl⟩
  have hcard : (unseen ((text.length + 1) * program.instructions.size) ∅).card ≤
      (text.length + 1) * program.instructions.size :=
    (Finset.card_filter_le _ _).trans_eq (Finset.card_range _)
  have hsearched : Searched program.key program.accepts program.following
      (Thread.In · text program.instructions.size) ∅ [(Place.start text).thread 0] :=
    ⟨fun a ha => List.mem_singleton.1 ha ▸ hstart, by simp, by simp⟩
  have hrejected := not_accepts_of_firstAccepted_eq_none (keyed hclosed text)
    (Option.not_isSome_iff_eq_none.1 hnone) (by simp only [List.length_singleton]; omega)
    hsearched hstart (.inr ⟨_, List.mem_singleton_self _, rfl⟩) hwalk
  rw [haccepts] at hrejected
  contradiction

section OfNode

variable {node : Node}

theorem holds_ofNode (node : Node) :
    (ofNode node).Holds 0 (node.anywhere.code 0 node.anywhere.size ++ [.accept]) :=
  ⟨[], [], by simp [ofNode], rfl⟩

theorem accept_ofNode (node : Node) :
    (ofNode node).instructions[node.anywhere.size]? = some .accept := by
  have h := (holds_ofNode node).right
  rw [Node.length_code, Nat.zero_add] at h
  exact h.head

theorem realizes_ofNode (node : Node) :
    (ofNode node).Realizes 0 node.anywhere.size node.anywhere.Leads :=
  realizes_code _ (holds_ofNode node).left

/-- A run of the program of a node ends where the node, begun anywhere, leads. -/
theorem leads_of_run {last : Thread} (h : (ofNode node).run text = some last) :
    ∃ q : Place, node.anywhere.Leads (Place.start text) q ∧ last = q.thread node.anywhere.size := by
  obtain ⟨haccepts, n, hwalk⟩ := run_sound h
  obtain ⟨m, q, _, hleads, hwalk⟩ := (realizes_ofNode node).sound hwalk haccepts
  cases hwalk with
  | here => exact ⟨q, hleads, rfl⟩
  | on hmem _ => simp [following, Place.thread, accept_ofNode] at hmem

theorem isSome_run_of_leads {q : Place} (h : node.anywhere.Leads (Place.start text) q) :
    ((ofNode node).run text).isSome := by
  obtain ⟨n, hwalk⟩ := (realizes_ofNode node).complete h
  refine isSome_run (isClosed_ofNode node) ?_ hwalk ?_
  · exact Nat.lt_of_le_of_lt (Nat.zero_le _)
      (Array.getElem?_eq_some_iff.1 (accept_ofNode node)).1
  · simp [accepts, Place.thread, accept_ofNode]

end OfNode

end Program

/-- What is found in a text is a match that begins anywhere in it. -/
theorem leads_of_find? {p : Pattern} {text : List Char} {found : Match}
    (h : p.find? text = some found) :
    ∃ q : Place, p.node.anywhere.Leads (Place.start text) q ∧
      ∃ address, found = Match.ofThread text (q.thread address) := by
  obtain ⟨last, hrun, rfl⟩ := Option.map_eq_some_iff.1 h
  rw [p.program_eq] at hrun
  obtain ⟨q, hleads, rfl⟩ := Program.leads_of_run hrun
  exact ⟨q, hleads, _, rfl⟩

/-- A match is found if there is one. -/
theorem isSome_find?_iff {p : Pattern} {text : List Char} :
    (p.find? text).isSome ↔ ∃ q, p.node.anywhere.Leads (Place.start text) q := by
  constructor
  · intro h
    obtain ⟨found, hfound⟩ := Option.isSome_iff_exists.1 h
    obtain ⟨q, hleads, _⟩ := leads_of_find? hfound
    exact ⟨q, hleads⟩
  · rintro ⟨q, hleads⟩
    rw [find?, Option.isSome_map, p.program_eq]
    exact Program.isSome_run_of_leads hleads

/-- A node that may begin anywhere leads where it leads from any place of the text. -/
theorem leads_anywhere {node : Node} {text : List Char} {q : Place} :
    node.anywhere.Leads (Place.start text) q ↔
      ∃ head rest m, text = head ++ rest ∧
        node.Leads (((Place.start text).after head rest).mark 0 true) m ∧ q = m.mark 0 false := by
  constructor
  · rintro ⟨x, ⟨count, _, _, hx⟩, m, hm, rfl⟩
    obtain ⟨head, _, _, rest, htext, rfl⟩ := Node.repeated_set.1 hx
    exact ⟨head, rest, m, htext, hm, rfl⟩
  · rintro ⟨head, rest, m, htext, hm, rfl⟩
    exact ⟨_, ⟨head.length, Nat.zero_le _, by simp, Node.repeated_set.2
      ⟨head, rfl, fun c _ => CharSet.contains_all c, rest, htext, rfl⟩⟩, m, hm, rfl⟩

end Inflection.Pattern
