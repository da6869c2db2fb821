import Mathlib.Data.List.Perm.Basic
import Inflection.Batch
import Inflection.Proofs.Derivation

/-!
What a batch has come to after some of its jobs. A job writes at its own place
only, so that the results do not depend on the order of the jobs, and the
warnings only in how they are ordered.
-/

namespace Inflection

/-- The warning that the job for a word leaves, if the word fails. -/
def Dictionary.warning? (dictionary : Dictionary) (id : UInt64) : Option String :=
  match dictionary.derive id with
  | .ok _ => none
  | .error error => some (Batch.warning id error)

namespace Batch

/-- Whether a batch is what it has to be after the jobs at some places, in their order. -/
structure After (batch : Batch) (dictionary : Dictionary) (ids : List UInt64)
    (done : List Nat) : Prop where
  results : ∀ place, batch.results[place]? =
    ids[place]?.map fun id => if place ∈ done then some (dictionary.derive id) else none
  warnings : batch.warnings = done.filterMap fun place => ids[place]?.bind dictionary.warning?

variable {batch : Batch} {dictionary : Dictionary} {ids : List UInt64} {done : List Nat}

theorem after_waiting (dictionary : Dictionary) (ids : List UInt64) :
    (waiting ids.length).After dictionary ids [] where
  results place := by
    rw [waiting, List.getElem?_replicate]
    split
    · rename_i hplace
      rw [List.getElem?_eq_getElem hplace]
      rfl
    · rename_i hplace
      rw [List.getElem?_eq_none (Nat.le_of_not_lt hplace)]
      rfl
  warnings := rfl

theorem results_record (place : Nat) (id : UInt64) (result : Except Error Derivation) :
    (batch.record place id result).results = batch.results.set place (some result) := rfl

theorem warnings_record (place : Nat) (id : UInt64) :
    (batch.record place id (dictionary.derive id)).warnings =
      batch.warnings ++ (dictionary.warning? id).toList := by
  unfold Dictionary.warning?
  cases dictionary.derive id with
  | ok derivation => exact (List.append_nil batch.warnings).symm
  | error error => rfl

/-- A job is done at its own place, and nothing else is changed by it. -/
theorem After.deriveAt (h : batch.After dictionary ids done) (place : Nat) :
    (dictionary.deriveAt ids batch place).After dictionary ids (done ++ [place]) := by
  unfold Dictionary.deriveAt
  cases hid : ids[place]? with
  | none =>
    constructor
    · intro other
      rw [h.results other]
      by_cases hother : other = place
      · rw [hother, hid]
        rfl
      · simp [hother]
    · rw [h.warnings, List.filterMap_append, List.filterMap_cons, hid]
      exact (List.append_nil _).symm
  | some id =>
    have hplace : place < batch.results.length := by
      have hsome := h.results place
      rw [hid, Option.map_some] at hsome
      exact (List.getElem?_eq_some_iff.1 hsome).1
    constructor
    · intro other
      by_cases hother : other = place
      · have hmem : place ∈ done ++ [place] := List.mem_append_right done List.mem_cons_self
        rw [hother, results_record, List.getElem?_set_self hplace, hid, Option.map_some,
          if_pos hmem]
      · rw [results_record, List.getElem?_set_ne (Ne.symm hother), h.results]
        simp [hother]
    · rw [warnings_record, h.warnings, List.filterMap_append, List.filterMap_cons, hid]
      cases hwarning : dictionary.warning? id <;> simp [hwarning]

/-- After the jobs at some places, one after another, a batch is what it has to be. -/
theorem After.foldl (h : batch.After dictionary ids done) (order : List Nat) :
    (order.foldl (dictionary.deriveAt ids) batch).After dictionary ids (done ++ order) := by
  induction order generalizing batch done with
  | nil =>
    rw [List.append_nil]
    exact h
  | cons place order ih =>
    have hrest := ih (h.deriveAt place)
    rw [List.append_assoc] at hrest
    exact hrest

/-- To look up each place of a list in turn is to go through the list. -/
theorem filterMap_range {α β : Type} (f : α → Option β) (as : List α) :
    (List.range as.length).filterMap (fun place => as[place]?.bind f) = as.filterMap f := by
  induction as with
  | nil => rfl
  | cons a as ih =>
    rw [List.length_cons, List.range_succ_eq_map, List.filterMap_cons, List.filterMap_map]
    cases h : f a <;> simp [h, ← ih]

end Batch

namespace Dictionary

variable {dictionary : Dictionary} {ids : List UInt64} {order : List Nat}

theorem after_deriveMany (dictionary : Dictionary) (ids : List UInt64) (order : List Nat) :
    (dictionary.deriveMany ids order).After dictionary ids order :=
  (Batch.after_waiting dictionary ids).foldl order

/-- When all jobs are done each word has its own result. -/
theorem results_deriveMany (horder : order.Perm (List.range ids.length)) :
    (dictionary.deriveMany ids order).results = ids.map fun id => some (dictionary.derive id) := by
  apply List.ext_getElem?
  intro place
  rw [(after_deriveMany dictionary ids order).results, List.getElem?_map]
  cases hid : ids[place]? with
  | none => rfl
  | some id =>
    obtain ⟨hplace, -⟩ := List.getElem?_eq_some_iff.1 hid
    have hmem : place ∈ order := horder.mem_iff.2 (List.mem_range.2 hplace)
    rw [Option.map_some, if_pos hmem]
    rfl

/-- When all jobs are done each word that failed has left its own warning. -/
theorem warnings_deriveMany (horder : order.Perm (List.range ids.length)) :
    (dictionary.deriveMany ids order).warnings.Perm (ids.filterMap dictionary.warning?) := by
  have hrange := Batch.filterMap_range dictionary.warning? ids
  rw [(after_deriveMany dictionary ids order).warnings, ← hrange]
  exact horder.filterMap _

end Dictionary

/-- What a batch comes to, in whatever order its jobs are done. Each word has the result that it has
by itself, at its place, whatever the other words are. -/
theorem Lexicon.deriveMany_law (lexicon : Lexicon) (ids : List UInt64) {order : List Nat}
    (horder : order.Perm (List.range ids.length)) :
    (lexicon.dictionary.deriveMany ids order).results.length = ids.length ∧
      (∀ (place : Nat) (id : UInt64), ids[place]? = some id →
        (lexicon.dictionary.deriveMany ids order).results[place]? =
          some (some (lexicon.dictionary.derive id))) ∧
      (∀ (others : List UInt64) (order' : List Nat), order'.Perm (List.range others.length) →
        ∀ place : Nat, others[place]? = ids[place]? →
          (lexicon.dictionary.deriveMany others order').results[place]? =
            (lexicon.dictionary.deriveMany ids order).results[place]?) ∧
      (lexicon.dictionary.deriveMany ids order).warnings.Perm
        (ids.filterMap lexicon.dictionary.warning?) ∧
      ∀ id result, lexicon.dictionary.derive id = result ↔ lexicon.Derives id result := by
  have hresults : (lexicon.dictionary.deriveMany ids order).results =
      ids.map fun id => some (lexicon.dictionary.derive id) := Dictionary.results_deriveMany horder
  refine ⟨?_, ?_, ?_, Dictionary.warnings_deriveMany horder, fun id result => derive_eq_iff⟩
  · rw [hresults, List.length_map]
  · intro place id hid
    rw [hresults, List.getElem?_map, hid]
    rfl
  · intro others order' horder' place hsame
    rw [hresults, Dictionary.results_deriveMany horder', List.getElem?_map, List.getElem?_map,
      hsame]

/-- A batch with a word twice, a word that is not known and words that fail in each way, of which
the second place of the repeated word is done first. -/
theorem Lexicon.deriveMany_law_mixed : ∃ (lexicon : Lexicon) (derivation : Derivation),
    [3, 0, 5, 1, 4, 2].Perm (List.range 6) ∧
    derivation.forms = ⟨"маса", [some "маса", some "масата", some "маси"]⟩ ∧
    (∀ place ∈ [1, 3],
      (lexicon.dictionary.deriveMany [404, 7, 9, 7, 5, 6] [3, 0, 5, 1, 4, 2]).results[place]? =
        some (some (.ok derivation))) ∧
    (lexicon.dictionary.deriveMany [404, 7, 9, 7, 5, 6] [3, 0, 5, 1, 4, 2]).warnings.Perm
      ["Skipping word 404: lookup error: the word 404 is unknown",
        "Skipping word 9: the speech part 'verb_tr' isn't supported",
        "Skipping word 5: rule error: rule '0' declares no replacement entries",
        "Skipping word 6: validation error: 'стол' does not satisfy 'а': " ++
          "root does not end with the suffix to strip"] := by
  obtain ⟨lexicon, hderived, hwarned⟩ : ∃ lexicon : Lexicon,
      (lexicon.dictionary.derive 7).toOption.any (fun derivation =>
        derivation.forms = ⟨"маса", [some "маса", some "масата", some "маси"]⟩) = true ∧
      [404, 7, 9, 7, 5, 6].filterMap lexicon.dictionary.warning? =
        ["Skipping word 404: lookup error: the word 404 is unknown",
          "Skipping word 9: the speech part 'verb_tr' isn't supported",
          "Skipping word 5: rule error: rule '0' declares no replacement entries",
          "Skipping word 6: validation error: 'стол' does not satisfy 'а': " ++
            "root does not end with the suffix to strip"] :=
    ⟨(((({} : Lexicon).insertWord
      ⟨7, "маса", 75, "noun_female", "а, [^аъ]а\nа\nата\nи\n-\n"⟩).insertWord
      ⟨9, "ям", 186, "verb_tr", ""⟩).insertWord ⟨5, "стол", 1, "noun_male", "0\n"⟩).insertWord
      ⟨6, "стол", 1, "noun_male", "а\n0\n"⟩, by decide +kernel, by decide +kernel⟩
  obtain ⟨derivation, hderive, hforms⟩ := exists_eq_ok_of_any hderived
  have horder : [3, 0, 5, 1, 4, 2].Perm (List.range 6) := by decide
  obtain ⟨-, hresults, -, hwarnings, -⟩ := lexicon.deriveMany_law [404, 7, 9, 7, 5, 6] horder
  refine ⟨lexicon, derivation, horder, of_decide_eq_true hforms, ?_, hwarned ▸ hwarnings⟩
  intro place hplace
  have hid : [404, 7, 9, 7, 5, 6][place]? = some (7 : UInt64) := by
    revert place
    decide
  rw [hresults place 7 hid, hderive]

end Inflection
