import Inflection.Lines

/-!
Sequences made of lines. A sequence is made of lines in one way only, which is
how it is split.
-/

namespace Inflection.Lines

variable {α : Type} [DecidableEq α] {lineEnd : α}

/-- Whether a sequence is made of the given lines, at least one, with a line end between any two
and none within. -/
def Joins (lineEnd : α) (lines : List (List α)) (whole : List α) : Prop :=
  lines ≠ [] ∧ [lineEnd].intercalate lines = whole ∧ ∀ line ∈ lines, lineEnd ∉ line

theorem not_mem_of_mem_splitOn {whole line : List α} (h : line ∈ whole.splitOn lineEnd) :
    lineEnd ∉ line := by
  induction whole generalizing line with
  | nil =>
    rw [List.splitOn_nil, List.mem_singleton] at h
    rw [h]
    exact List.not_mem_nil
  | cons x whole ih =>
    rw [List.splitOn_cons_eq_if_modifyHead] at h
    split at h
    · rcases List.mem_cons.1 h with hnil | hline
      · rw [hnil]
        exact List.not_mem_nil
      · exact ih hline
    · rename_i hx
      obtain ⟨first, others, hsplit⟩ :=
        List.exists_cons_of_ne_nil (List.splitOn_ne_nil lineEnd whole)
      rw [hsplit, List.modifyHead_cons] at h
      rcases List.mem_cons.1 h with hfirst | hline
      · have hwithin : lineEnd ∉ first := ih (hsplit ▸ List.mem_cons_self)
        have hne : lineEnd ≠ x := fun heq => hx (beq_iff_eq.2 heq.symm)
        rw [hfirst, List.mem_cons, not_or]
        exact ⟨hne, hwithin⟩
      · exact ih (hsplit ▸ List.mem_cons_of_mem first hline)

theorem joins_iff {lines : List (List α)} {whole : List α} :
    Joins lineEnd lines whole ↔ lines = whole.splitOn lineEnd := by
  constructor
  · intro h
    obtain ⟨hne, rfl, hwithin⟩ := h
    exact (List.splitOn_intercalate lineEnd hwithin hne).symm
  · intro h
    rw [h]
    exact ⟨List.splitOn_ne_nil lineEnd whole, List.intercalate_splitOn lineEnd,
      fun line hline => not_mem_of_mem_splitOn hline⟩

theorem dropFinal_eq_self_iff {unit : α} {line : List α} :
    dropFinal unit line = line ↔ line.getLast? ≠ some unit := by
  constructor
  · intro h hlast
    obtain ⟨kept, rfl⟩ := List.getLast?_eq_some_iff.1 hlast
    rw [dropFinal_append_self] at h
    simp at h
  · exact dropFinal_of_getLast?_ne

theorem mem_of_mem_dropFinal {unit x : α} {line : List α} (h : x ∈ dropFinal unit line) :
    x ∈ line := by
  unfold dropFinal at h
  split at h
  · exact (List.dropLast_sublist line).subset h
  · exact h

end Inflection.Lines
