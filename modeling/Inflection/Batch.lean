import Inflection.Derivation

/-!
Batches of words. To derive the words of a batch is one job for each, and the
jobs may be done in any order. The result of a job goes to the place of its word,
and a job that fails leaves a warning as well.
-/

namespace Inflection

structure Batch where
  /-- The results of the jobs that are done, each at the place of its word. -/
  results : List (Option (Except Error Derivation))
  /-- The warnings, in the order in which they were given. -/
  warnings : List String

namespace Batch

/-- A batch of which no job is done. -/
def waiting (size : Nat) : Batch := ⟨List.replicate size none, []⟩

/-- The warning that a word is left out. -/
def warning (id : UInt64) (error : Error) : String :=
  "Skipping word " ++ toString id.toNat ++ ": " ++ error.text

/-- Puts the result for a word at its place, with a warning if the word failed. -/
def record (batch : Batch) (place : Nat) (id : UInt64) (result : Except Error Derivation) :
    Batch where
  results := batch.results.set place (some result)
  warnings :=
    match result with
    | .ok _ => batch.warnings
    | .error error => batch.warnings ++ [warning id error]

end Batch

namespace Dictionary

/-- Does the job for the word at a place of a batch. -/
def deriveAt (dictionary : Dictionary) (ids : List UInt64) (batch : Batch) (place : Nat) : Batch :=
  match ids[place]? with
  | some id => batch.record place id (dictionary.derive id)
  | none => batch

/-- The batch of some words after the jobs at the given places, in this order. -/
def deriveMany (dictionary : Dictionary) (ids : List UInt64) (order : List Nat) : Batch :=
  order.foldl (dictionary.deriveAt ids) (Batch.waiting ids.length)

end Dictionary

end Inflection
