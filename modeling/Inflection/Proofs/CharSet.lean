import Inflection.CharSet

/-!
Which characters are members of the sets that patterns are made of.
-/

namespace Inflection.CharSet

theorem contains_all (c : Char) : all.contains c = true := by
  have hvalid : c.toNat < 0xD800 ∨ 0xDFFF < c.toNat ∧ c.toNat < 0x110000 := c.valid
  simp only [contains, all, containsFrom]
  grind

theorem contains_compl (s : CharSet) (c : Char) : s.compl.contains c = !s.contains c := by
  rw [compl, contains_diff, contains_all, Bool.true_and]

theorem contains_range {low high : Char} (h : low ≤ high) (c : Char) :
    (range low high).contains c = true ↔ low ≤ c ∧ c ≤ high := by
  have hle : low.toNat ≤ high.toNat := h
  have hbounds : (ofBounds [low.toNat, high.toNat + 1]).bounds = [low.toNat, high.toNat + 1] := by
    simp [ofBounds, ascend, hle]
  rw [range, if_pos h, contains_inter, contains_all, Bool.and_true, contains, hbounds]
  have hlow : low ≤ c ↔ low.toNat ≤ c.toNat := Iff.rfl
  have hhigh : c ≤ high ↔ c.toNat ≤ high.toNat := Iff.rfl
  rw [hlow, hhigh]
  simp only [containsFrom]
  grind

theorem contains_single (c x : Char) : (single c).contains x = true ↔ x = c := by
  rw [single, contains_range (Char.le_refl c)]
  exact ⟨fun h => Char.le_antisymm h.2 h.1, fun h => h ▸ ⟨Char.le_refl _, Char.le_refl _⟩⟩

/-- The member that a set is said to have is its only one. -/
theorem contains_of_sole? {s : CharSet} {c : Char} (h : s.sole? = some c) (x : Char) :
    s.contains x = true ↔ x = c := by
  unfold sole? at h
  split at h
  case h_2 => contradiction
  case h_1 low high hbounds =>
    split at h
    case isFalse => contradiction
    case isTrue hlow =>
      obtain rfl := Option.some.inj h
      obtain ⟨rfl, hvalid⟩ := hlow
      simp only [contains, hbounds, containsFrom]
      constructor
      · intro hx
        have hpoint : x.toNat = low := by
          split at hx
          · contradiction
          · split at hx
            · omega
            · contradiction
        exact Char.toNat_inj.1 (hpoint.trans hvalid.symm)
      · rintro rfl
        rw [hvalid]
        simp

end Inflection.CharSet
