/-!
Lines of a text or of a sequence of bytes. A line ends at a line feed, and one
carriage return before the line feed belongs to the end of the line.
-/

namespace Inflection.Lines

variable {α : Type} [DecidableEq α]

/-- The sequence without its last unit if that is `unit`. -/
def dropFinal (unit : α) (line : List α) : List α :=
  if line.getLast? = some unit then line.dropLast else line

@[simp] theorem dropFinal_append_self (unit : α) (line : List α) :
    dropFinal unit (line ++ [unit]) = line := by
  simp [dropFinal]

theorem dropFinal_of_getLast?_ne {unit : α} {line : List α} (h : line.getLast? ≠ some unit) :
    dropFinal unit line = line := by
  simp [dropFinal, h]

end Inflection.Lines
