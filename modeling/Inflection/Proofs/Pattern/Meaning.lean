import Inflection.Pattern.Search
import Inflection.Proofs.CharSet

/-!
What a node stands for, apart from any program. A node leads from a place of a
text to each place where a match of it may end; which match is preferred does
not matter here. Nodes made by `sequence` and `ofSet` lead where their parts
do.
-/

namespace Inflection.Pattern

/-- A thread without its address. -/
structure Place where
  offset : Nat
  before : Option Char
  rest : List Char
  marks : List GroupMark

namespace Place

def start (text : List Char) : Place := ⟨0, none, text, []⟩

def thread (p : Place) (address : Nat) : Thread :=
  ⟨address, p.offset, p.before, p.rest, p.marks⟩

@[simp] theorem thread_address (p : Place) (address : Nat) : (p.thread address).address = address :=
  rfl

/-- Notes an end of a group. -/
def mark (p : Place) (index : Nat) (opens : Bool) : Place :=
  { p with marks := ⟨index, opens, p.offset⟩ :: p.marks }

/-- The place after `text`, given what follows it. -/
def after (p : Place) (text rest : List Char) : Place :=
  { p with offset := p.offset + text.length, before := text.getLast?.or p.before, rest }

@[simp] theorem after_offset (p : Place) (text rest : List Char) :
    (p.after text rest).offset = p.offset + text.length := rfl

@[simp] theorem after_before (p : Place) (text rest : List Char) :
    (p.after text rest).before = text.getLast?.or p.before := rfl

@[simp] theorem after_rest (p : Place) (text rest : List Char) :
    (p.after text rest).rest = rest := rfl

@[simp] theorem after_marks (p : Place) (text rest : List Char) :
    (p.after text rest).marks = p.marks := rfl

@[simp] theorem after_nil (p : Place) : p.after [] p.rest = p := rfl

theorem after_append (p : Place) (left right rest : List Char) :
    p.after (left ++ right) rest = (p.after left (right ++ rest)).after right rest := by
  simp only [after, List.length_append, List.getLast?_append, Nat.add_assoc, Option.or_assoc]

/-- Whether `text` and nothing else stands between two places. -/
def Reads (text : List Char) (p q : Place) : Prop :=
  ∃ rest, p.rest = text ++ rest ∧ q = p.after text rest

@[simp] theorem reads_nil {p q : Place} : Reads [] p q ↔ q = p := by
  simp [Reads]

theorem reads_append {left right : List Char} {p q : Place} :
    Reads (left ++ right) p q ↔ ∃ m, Reads left p m ∧ Reads right m q := by
  constructor
  · rintro ⟨rest, hrest, rfl⟩
    refine ⟨p.after left (right ++ rest), ⟨_, ?_, rfl⟩, rest, rfl, p.after_append left right rest⟩
    rw [hrest, List.append_assoc]
  · rintro ⟨m, ⟨rest, hrest, rfl⟩, rest', rfl, rfl⟩
    exact ⟨rest', by rw [hrest, List.append_assoc], (p.after_append left right rest').symm⟩

theorem reads_cons {c : Char} {text : List Char} {p q : Place} :
    Reads (c :: text) p q ↔ ∃ m, Reads [c] p m ∧ Reads text m q :=
  @reads_append [c] text p q

end Place

/-- So many steps of a relation, one after another. -/
def Repeated {α : Type} (step : α → α → Prop) : Nat → α → α → Prop
  | 0, a, b => b = a
  | count + 1, a, b => ∃ m, step a m ∧ Repeated step count m b

theorem repeated_add {α : Type} {step : α → α → Prop} {j k : Nat} {a b : α} :
    Repeated step (j + k) a b ↔ ∃ m, Repeated step j a m ∧ Repeated step k m b := by
  induction j generalizing a with
  | zero => simp [Repeated]
  | succ j ih =>
    rw [Nat.succ_add]
    simp only [Repeated, ih]
    constructor
    · rintro ⟨x, hx, m, hj, hk⟩
      exact ⟨m, ⟨x, hx, hj⟩, hk⟩
    · rintro ⟨m, ⟨x, hx, hj⟩, hk⟩
      exact ⟨x, hx, m, hj, hk⟩

namespace Node

/-- Whether a match may begin at one place and end at another. -/
def Leads : Node → Place → Place → Prop
  | empty, p, q => q = p
  | literal text, p, q => Place.Reads text p q
  | set members, p, q => ∃ c, members.contains c ∧ Place.Reads [c] p q
  | look boundary, p, q => boundary.holds p.before p.rest.head? ∧ q = p
  | group index body, p, q => ∃ m, Leads body (p.mark index true) m ∧ q = m.mark index false
  | seq first second, p, q => ∃ m, Leads first p m ∧ Leads second m q
  | alt first second, p, q => Leads first p q ∨ Leads second p q
  | times low high _ body, p, q =>
    ∃ count, low ≤ count ∧ (∀ most ∈ high, count ≤ max low most) ∧ Repeated (Leads body) count p q

/-- Matches of several nodes, one after another. -/
def LeadsAll : List Node → Place → Place → Prop
  | [], p, q => q = p
  | node :: nodes, p, q => ∃ m, Leads node p m ∧ LeadsAll nodes m q

theorem leadsAll_append {left right : List Node} {p q : Place} :
    LeadsAll (left ++ right) p q ↔ ∃ m, LeadsAll left p m ∧ LeadsAll right m q := by
  induction left generalizing p with
  | nil => simp [LeadsAll]
  | cons node left ih =>
    simp only [List.cons_append, LeadsAll, ih]
    constructor
    · rintro ⟨x, hx, m, hleft, hright⟩
      exact ⟨m, ⟨x, hx, hleft⟩, hright⟩
    · rintro ⟨m, ⟨x, hx, hleft⟩, hright⟩
      exact ⟨x, hx, m, hleft, hright⟩

@[simp] theorem leadsAll_singleton {node : Node} {p q : Place} :
    LeadsAll [node] p q ↔ Leads node p q := by
  simp [LeadsAll]

theorem leadsAll_parts {node : Node} {p q : Place} : LeadsAll node.parts p q ↔ Leads node p q := by
  induction node generalizing p with
  | empty => rfl
  | seq first second _ ih => simp only [parts, LeadsAll, Leads, ih]
  | _ => exact leadsAll_singleton

theorem leadsAll_flatMap_parts {nodes : List Node} {p q : Place} :
    LeadsAll (nodes.flatMap parts) p q ↔ LeadsAll nodes p q := by
  induction nodes generalizing p with
  | nil => rfl
  | cons node nodes ih =>
    rw [List.flatMap_cons, leadsAll_append]
    simp only [LeadsAll, leadsAll_parts, ih]

/-- Joining two literals changes nothing. -/
theorem leadsAll_prepend {node : Node} {rest : List Node} {p q : Place} :
    LeadsAll (prepend node rest) p q ↔ LeadsAll (node :: rest) p q := by
  unfold prepend
  split
  · simp only [LeadsAll, Leads, Place.reads_append]
    constructor
    · rintro ⟨m, ⟨x, hx, hm⟩, hrest⟩
      exact ⟨x, hx, m, hm, hrest⟩
    · rintro ⟨x, hx, m, hm, hrest⟩
      exact ⟨m, ⟨x, hx, hm⟩, hrest⟩
  · rfl

theorem leadsAll_foldr_prepend {nodes : List Node} {p q : Place} :
    LeadsAll (nodes.foldr prepend []) p q ↔ LeadsAll nodes p q := by
  induction nodes generalizing p with
  | nil => rfl
  | cons node nodes ih => simp only [List.foldr_cons, leadsAll_prepend, LeadsAll, ih]

theorem leads_foldr_seq {nodes : List Node} {last : Node} {p q : Place} :
    Leads (nodes.foldr seq last) p q ↔ LeadsAll (nodes ++ [last]) p q := by
  induction nodes generalizing p with
  | nil => exact leadsAll_singleton.symm
  | cons node nodes ih => simp only [List.foldr_cons, List.cons_append, Leads, LeadsAll, ih]

/-- A sequence leads where its nodes lead one after another. -/
theorem leads_sequence {nodes : List Node} {p q : Place} :
    Leads (sequence nodes) p q ↔ LeadsAll nodes p q := by
  rw [← leadsAll_flatMap_parts, ← leadsAll_foldr_prepend, sequence]
  generalize (nodes.flatMap parts).foldr prepend [] = all
  cases hlast : all.getLast? with
  | none =>
    rw [List.getLast?_eq_none_iff.1 hlast]
    rfl
  | some last =>
    obtain ⟨front, rfl⟩ := List.getLast?_eq_some_iff.1 hlast
    simp only [List.dropLast_concat, leads_foldr_seq]

/-- A set leads past one of its members. -/
theorem leads_ofSet {s : CharSet} {p q : Place} :
    Leads (ofSet s) p q ↔ ∃ c, s.contains c ∧ Place.Reads [c] p q := by
  unfold ofSet
  split
  case h_1 c hsole =>
    simp only [Leads, CharSet.contains_of_sole? hsole, exists_eq_left]
  case h_2 => rfl

@[simp] theorem isWidthless_ofSet (s : CharSet) : (ofSet s).isWidthless = false := by
  unfold ofSet
  split <;> rfl

/-- Members of a set, one after another, are passed together. -/
theorem repeated_set {s : CharSet} {count : Nat} {p q : Place} :
    Repeated (Leads (set s)) count p q ↔
      ∃ text, text.length = count ∧ (∀ c ∈ text, s.contains c) ∧ Place.Reads text p q := by
  induction count generalizing p with
  | zero => simp [Repeated]
  | succ count ih =>
    simp only [Repeated, ih]
    constructor
    · rintro ⟨m, ⟨c, hc, hfirst⟩, text, rfl, htext, hrest⟩
      refine ⟨c :: text, rfl, ?_, ?_⟩
      · simpa [hc] using htext
      · exact Place.reads_cons.2 ⟨m, hfirst, hrest⟩
    · rintro ⟨text, hlength, htext, hreads⟩
      obtain ⟨c, text, rfl⟩ := List.exists_cons_of_length_eq_add_one hlength
      obtain ⟨m, hfirst, hrest⟩ := Place.reads_cons.1 hreads
      exact ⟨m, ⟨c, htext c List.mem_cons_self, hfirst⟩, text, Nat.succ.inj hlength,
        fun x hx => htext x (List.mem_cons_of_mem c hx), hrest⟩

end Node

end Inflection.Pattern
