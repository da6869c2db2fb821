/-!
Sets of characters. A set is given by the ascending list of the code points at
which membership changes, and there is one such list for each set of code
points. The union of two sets and its like come from one pass over both lists.
-/

namespace Inflection

/-- A set of code points. Those below the first bound are outside, those from
it to the second inside, and so on. -/
structure CharSet where
  bounds : List Nat
  ascending : bounds.Pairwise (· < ·) := by simp
deriving DecidableEq

namespace CharSet

instance : EmptyCollection CharSet := ⟨⟨[], by simp⟩⟩

instance : Inhabited CharSet := ⟨∅⟩

/-- Whether a code point is a member, where those below the first bound are if
`inside` says so. -/
def containsFrom (inside : Bool) : List Nat → Nat → Bool
  | [], _ => inside
  | bound :: bounds, point =>
    if point < bound then inside else containsFrom (!inside) bounds point

def contains (s : CharSet) (c : Char) : Bool :=
  containsFrom false s.bounds c.toNat

/-- The bounds that are at least `least` and greater than all before them. -/
def ascend (least : Nat) : List Nat → List Nat
  | [] => []
  | bound :: bounds =>
    if least ≤ bound then bound :: ascend (bound + 1) bounds else ascend least bounds

theorem le_of_mem_ascend {least point : Nat} {bounds : List Nat}
    (h : point ∈ ascend least bounds) : least ≤ point := by
  induction bounds generalizing least with
  | nil => simp [ascend] at h
  | cons bound bounds ih =>
    rw [ascend] at h
    split at h
    · rcases List.mem_cons.1 h with rfl | h
      · assumption
      · have := ih h
        omega
    · exact ih h

theorem pairwise_ascend (least : Nat) (bounds : List Nat) :
    (ascend least bounds).Pairwise (· < ·) := by
  induction bounds generalizing least with
  | nil => simp [ascend]
  | cons bound bounds ih =>
    rw [ascend]
    split
    · exact List.pairwise_cons.2 ⟨fun point h => le_of_mem_ascend h, ih (bound + 1)⟩
    · exact ih least

/-- The set with the given bounds, of which those that do not ascend are left
out. -/
def ofBounds (bounds : List Nat) : CharSet :=
  ⟨ascend 0 bounds, pairwise_ascend 0 bounds⟩

/-- The code points that are characters, which the surrogates are not. -/
def all : CharSet := ⟨[0, 0xD800, 0xE000, 0x110000], by decide⟩

/-- The bounds from `point` on, given those after it. Where nothing changes there
is no bound. -/
def mark (before after : Bool) (point : Nat) (rest : List Nat) : List Nat :=
  if before = after then rest else point :: rest

/-- The bounds of a combination of two sets, given whether the code points below
all bounds are inside each of them. -/
def combineFrom (f : Bool → Bool → Bool) (left right : Bool) : List Nat → List Nat → List Nat
  | [], [] => []
  | a :: as, [] =>
    mark (f left right) (f (!left) right) a (combineFrom f (!left) right as [])
  | [], b :: bs =>
    mark (f left right) (f left (!right)) b (combineFrom f left (!right) [] bs)
  | a :: as, b :: bs =>
    if a < b then
      mark (f left right) (f (!left) right) a (combineFrom f (!left) right as (b :: bs))
    else if b < a then
      mark (f left right) (f left (!right)) b (combineFrom f left (!right) (a :: as) bs)
    else
      mark (f left right) (f (!left) (!right)) a (combineFrom f (!left) (!right) as bs)
termination_by as bs => as.length + bs.length

theorem mem_of_mem_combineFrom {f : Bool → Bool → Bool} {left right : Bool} {as bs : List Nat}
    {point : Nat} (h : point ∈ combineFrom f left right as bs) : point ∈ as ∨ point ∈ bs := by
  fun_induction combineFrom f left right as bs with grind [mark]

theorem pairwise_combineFrom (f : Bool → Bool → Bool) (left right : Bool) {as bs : List Nat}
    (ha : as.Pairwise (· < ·)) (hb : bs.Pairwise (· < ·)) :
    (combineFrom f left right as bs).Pairwise (· < ·) := by
  fun_induction combineFrom f left right as bs with
    grind [mark, List.pairwise_cons, → mem_of_mem_combineFrom]

/-- The set of the code points for which `f`, given whether each of two sets
holds them, is true. -/
def combine (f : Bool → Bool → Bool) (s t : CharSet) : CharSet :=
  ⟨combineFrom f false false s.bounds t.bounds,
    pairwise_combineFrom f false false s.ascending t.ascending⟩

theorem containsFrom_of_lt {bounds : List Nat} {point : Nat} (inside : Bool)
    (h : ∀ bound ∈ bounds, point < bound) : containsFrom inside bounds point = inside := by
  cases bounds with
  | nil => rfl
  | cons bound bounds => simp [containsFrom, h bound (by simp)]

theorem containsFrom_mark (before after : Bool) {bound : Nat} {rest : List Nat}
    (h : ∀ b ∈ rest, bound < b) (point : Nat) :
    containsFrom before (mark before after bound rest) point =
      if point < bound then before else containsFrom after rest point := by
  rw [mark]
  split
  · subst after
    split
    · exact containsFrom_of_lt before fun b hb => by have := h b hb; omega
    · rfl
  · have : (!before) = after := by cases before <;> cases after <;> simp_all
    rw [containsFrom, this]

theorem containsFrom_combineFrom (f : Bool → Bool → Bool) (left right : Bool) {as bs : List Nat}
    (ha : as.Pairwise (· < ·)) (hb : bs.Pairwise (· < ·)) (point : Nat) :
    containsFrom (f left right) (combineFrom f left right as bs) point =
      f (containsFrom left as point) (containsFrom right bs point) := by
  fun_induction combineFrom f left right as bs with
  | case1 => rfl
  | case2 left right a as ih =>
    have := List.pairwise_cons.1 ha
    rw [containsFrom_mark _ _ (by grind [→ mem_of_mem_combineFrom]), ih this.2 hb]
    grind [containsFrom]
  | case3 left right b bs ih =>
    have := List.pairwise_cons.1 hb
    rw [containsFrom_mark _ _ (by grind [→ mem_of_mem_combineFrom]), ih ha this.2]
    grind [containsFrom]
  | case4 left right a as b bs h ih =>
    have ha' := List.pairwise_cons.1 ha
    have hb' := List.pairwise_cons.1 hb
    rw [containsFrom_mark _ _ (by grind [→ mem_of_mem_combineFrom]), ih ha'.2 hb]
    grind [containsFrom]
  | case5 left right a as b bs h₁ h₂ ih =>
    have ha' := List.pairwise_cons.1 ha
    have hb' := List.pairwise_cons.1 hb
    rw [containsFrom_mark _ _ (by grind [→ mem_of_mem_combineFrom]), ih ha hb'.2]
    grind [containsFrom]
  | case6 left right a as b bs h₁ h₂ ih =>
    have ha' := List.pairwise_cons.1 ha
    have hb' := List.pairwise_cons.1 hb
    rw [containsFrom_mark _ _ (by grind [→ mem_of_mem_combineFrom]), ih ha'.2 hb'.2]
    grind [containsFrom]

/-- A combination holds a character as the combined sets say. -/
theorem contains_combine (f : Bool → Bool → Bool) (h : f false false = false) (s t : CharSet)
    (c : Char) : (combine f s t).contains c = f (s.contains c) (t.contains c) := by
  have combined := containsFrom_combineFrom f false false s.ascending t.ascending c.toNat
  rwa [h] at combined

/-- The members of either set. -/
def union : CharSet → CharSet → CharSet := combine or

/-- The members of both sets. -/
def inter : CharSet → CharSet → CharSet := combine and

/-- The members of the first set that are not in the second. -/
def diff : CharSet → CharSet → CharSet := combine fun left right => left && !right

/-- The members of one set that are not in the other. -/
def symmDiff : CharSet → CharSet → CharSet := combine bne

instance : Union CharSet := ⟨union⟩

instance : Inter CharSet := ⟨inter⟩

instance : SDiff CharSet := ⟨diff⟩

theorem contains_empty (c : Char) : (∅ : CharSet).contains c = false := rfl

theorem contains_union (s t : CharSet) (c : Char) :
    (s ∪ t).contains c = (s.contains c || t.contains c) :=
  contains_combine or rfl s t c

theorem contains_inter (s t : CharSet) (c : Char) :
    (s ∩ t).contains c = (s.contains c && t.contains c) :=
  contains_combine and rfl s t c

theorem contains_diff (s t : CharSet) (c : Char) :
    (s \ t).contains c = (s.contains c && !t.contains c) :=
  contains_combine (fun left right => left && !right) rfl s t c

/-- The characters outside the set. -/
def compl (s : CharSet) : CharSet := all \ s

/-- The characters from `low` to `high`. -/
def range (low high : Char) : CharSet :=
  if low ≤ high then ofBounds [low.toNat, high.toNat + 1] ∩ all else ∅

def single (c : Char) : CharSet := range c c

/-- Adds `point` to the bounds of a set of greater points. -/
def insertLeast (point : Nat) : List Nat → List Nat
  | [] => [point, point + 1]
  | bound :: bounds =>
    if bound = point then bound :: bounds
    else if bound = point + 1 then point :: bounds
    else point :: (point + 1) :: bound :: bounds

def ofChars (cs : List Char) : CharSet :=
  let points := (cs.map Char.toNat).mergeSort
  ofBounds (points.foldr insertLeast [])

/-- The ASCII characters that satisfy a condition. -/
def ascii (holds : Char → Bool) : CharSet :=
  ofChars (((List.range 128).map Char.ofNat).filter holds)

/-- The first and the last code point of each run of members. -/
def rangesOf : List Nat → List (Nat × Nat)
  | low :: next :: bounds => (low, next - 1) :: rangesOf bounds
  | _ => []

def ranges (s : CharSet) : List (Nat × Nat) :=
  rangesOf s.bounds

def isEmpty (s : CharSet) : Bool :=
  s.bounds.isEmpty

/-- The member of a set that has one member. -/
def sole? (s : CharSet) : Option Char :=
  match s.bounds with
  | [low, high] =>
    if high = low + 1 ∧ (Char.ofNat low).toNat = low then some (Char.ofNat low) else none
  | _ => none

def isAscii (s : CharSet) : Bool :=
  s.bounds.all (· ≤ 128)

end CharSet

end Inflection
