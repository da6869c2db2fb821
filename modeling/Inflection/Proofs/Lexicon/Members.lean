import Mathlib.Data.List.Forall2
import Inflection.Lexicon.Line
import Inflection.Proofs.Json.Records

/-!
The layouts of a line of a dump. What a line adds is told by its kind and the fields of
this kind, each of which occurs once. It does not matter in which order they stand, nor
what else stands among them, and an array of the kind and the fields says the same.
-/

namespace Inflection.Lexicon.Line

open Json (Value)
open Json.Codec (encode decode?)
open Json.LawfulCodec (decode?_encode isWritable_encode)

/-- The fields of a kind of lines, in order. -/
def fieldNames : String → List String
  | "word" => ["id", "name", "type_id", "speech_part", "rules"]
  | "form" => ["base_word_id", "name", "description"]
  | _ => []

/-- The line of a kind with the given fields. -/
def ofFields? : String → List Value → Option Line
  | "word", [id, root, typeId, speechPart, rules] => do
    return .word ⟨← decode? id, ← decode? root, ← decode? typeId, ← decode? speechPart,
      ← decode? rules⟩
  | "form", [wordId, name, description] => do
    return .form (← decode? wordId) ⟨← decode? name, ← decode? description⟩
  | _, _ => none

theorem nodup_fieldNames (kind : String) : (fieldNames kind).Nodup := by
  unfold fieldNames
  split <;> decide

theorem kind_not_mem_fieldNames (kind : String) : "kind" ∉ fieldNames kind := by
  unfold fieldNames
  split <;> decide

theorem ofFields?_eq_none {kind : String} (hword : kind ≠ "word") (hform : kind ≠ "form")
    (values : List Value) : ofFields? kind values = none := by
  rw [ofFields?]
  · intro _ _ _ _ _ hkind
    exact absurd hkind hword
  · intro _ _ _ hkind
    exact absurd hkind hform

section Contents

theorem decode?_eq (content : Value) : (decode? content).map word =
    (content.fields? (fieldNames "word")).bind (ofFields? "word") := by
  unfold instCodecWordEntry
  rw [fieldNames]
  cases hfields : content.fields? ["id", "name", "type_id", "speech_part", "rules"] with
  | none => simp only [hfields, Option.bind_eq_bind, Option.bind_none, Option.map_none]
  | some values =>
    simp only [hfields, Option.bind_eq_bind, Option.bind_some]
    split
    · simp only [ofFields?, Option.map_bind, Option.bind_eq_bind, Function.comp_def,
        Option.map_some, Option.pure_def]
    · rename_i hvalues
      rw [ofFields?]
      · rfl
      · simpa using hvalues
      · intro _ _ _ hkind
        exact absurd hkind (by decide)

theorem form?_eq (content : Value) :
    form? content = (content.fields? (fieldNames "form")).bind (ofFields? "form") := by
  rw [form?, fieldNames]
  cases content.fields? ["base_word_id", "name", "description"] with
  | none => rfl
  | some values =>
    simp only [Option.bind_eq_bind, Option.bind_some]
    split
    · simp only [ofFields?, Option.bind_eq_bind]
    · rename_i hvalues
      rw [ofFields?]
      · intro _ _ _ _ _ hkind
        exact absurd hkind (by decide)
      · simpa using hvalues

/-- A line is read by its kind from the fields of this kind. -/
theorem ofValue?_eq (value : Value) : ofValue? value =
    if isReadable depthLimit value then
      (kind? value).bind fun (kind, content) =>
        (content.fields? (fieldNames kind)).bind (ofFields? kind)
    else none := by
  unfold ofValue?
  cases isReadable depthLimit value with
  | false => rfl
  | true =>
    cases kind? value with
    | none => rfl
    | some found =>
      obtain ⟨kind, content⟩ := found
      simp only [Bool.not_true, Bool.false_eq_true, if_false, if_true, Option.bind_eq_bind,
        Option.bind_some]
      split
      · exact decode?_eq content
      · exact form?_eq content
      · rename_i hword hform
        cases content.fields? (fieldNames kind) with
        | none => rfl
        | some values => exact (ofFields?_eq_none hword hform values).symm

end Contents

section Readable

variable {depth : Nat} {members : List (Option String × Value)}

theorem areReadableMembers_iff : areReadableMembers depth members = true ↔
    ∀ member ∈ members, member.1.isSome = true ∧ isReadable depth member.2 = true := by
  induction members with
  | nil => simp [areReadableMembers]
  | cons member members ih => simp [areReadableMembers, ih]

theorem areReadableMembers_record (fields : List (String × Value)) :
    areReadableMembers depth (fields.map fun (name, value) => (some name, value)) =
      areReadable depth (fields.map (·.2)) := by
  induction fields with
  | nil => rfl
  | cons field fields ih =>
    rw [List.map_cons, List.map_cons, areReadableMembers, areReadable, ih]
    rfl

end Readable

/-- Whether a key occurs once among the members of an object, with the given value. -/
def IsSole (members : List (Option String × Value)) (key : String) (value : Value) : Prop :=
  members.filter (·.1 = some key) = [(some key, value)]

section Sole

variable {members members' extra : List (Option String × Value)} {key : String} {value : Value}

theorem isSole_perm (h : members.Perm members') :
    IsSole members key value ↔ IsSole members' key value := by
  have hfilter := h.filter fun member => decide (member.1 = some key)
  rw [IsSole, IsSole, ← List.perm_singleton, ← List.perm_singleton]
  exact ⟨hfilter.symm.trans, hfilter.trans⟩

theorem isSole_append (h : ∀ member ∈ extra, member.1 ≠ some key) :
    IsSole (members ++ extra) key value ↔ IsSole members key value := by
  have hextra : extra.filter (·.1 = some key) = [] := by
    rw [List.filter_eq_nil_iff]
    simpa using h
  rw [IsSole, List.filter_append, hextra, List.append_nil, IsSole]

theorem isSole_filter {other : String} (h : key ≠ other) :
    IsSole (members.filter (·.1 ≠ some other)) key value ↔ IsSole members key value := by
  rw [IsSole, List.filter_filter, IsSole]
  have hkept : ∀ member ∈ members,
      (decide (member.1 = some key) && decide (member.1 ≠ some other)) =
        decide (member.1 = some key) := by
    intro member _
    by_cases hkey : member.1 = some key
    · simp [hkey, h]
    · simp [hkey]
  rw [List.filter_congr hkept]

theorem kind?_object_eq_some_iff {kind : String} {content : Value} :
    kind? (.object members) = some (kind, content) ↔
      IsSole members "kind" (.string (some kind)) ∧
        content = .object (members.filter (·.1 ≠ some "kind")) := by
  rw [kind?, IsSole]
  split
  · rename_i key found hfilter
    obtain rfl : key = some "kind" := of_decide_eq_true (Json.of_filter_eq_singleton hfilter).2
    simp [hfilter, eq_comm]
  · rename_i hnone
    refine iff_of_false nofun ?_
    rintro ⟨hfilter, -⟩
    exact hnone _ _ hfilter

theorem IsSole.unique {other : Value} (h : IsSole members key value)
    (hother : IsSole members key other) : value = other := by
  have hlists := h.symm.trans hother
  simpa using hlists

theorem IsSole.mem (h : IsSole members key value) : (some key, value) ∈ members :=
  (Json.of_filter_eq_singleton h).1

theorem isSole_record {fields : List (String × Value)} :
    IsSole (fields.map fun (name, value) => (some name, value)) key value ↔
      Value.only? key fields = some value := by
  rw [Json.only?_eq_some_iff, IsSole, List.filter_map]
  have hkeys : ((fun member : Option String × Value => decide (member.1 = some key)) ∘
      fun (name, value) => (some name, value)) = fun field => decide (field.1 = key) := by
    ext field
    simp
  rw [hkeys]
  constructor
  · intro h
    obtain ⟨⟨name, found⟩, hfilter, hfield⟩ := List.map_eq_singleton_iff.1 h
    simp only [Prod.mk.injEq, Option.some.injEq] at hfield
    rw [hfilter, hfield.1, hfield.2]
  · intro h
    rw [h]
    rfl

theorem exists_record_eq (hkeys : ∀ member ∈ members, member.1.isSome = true) :
    ∃ fields : List (String × Value),
      fields.map (fun (name, value) => (some name, value)) = members := by
  induction members with
  | nil => exact ⟨[], rfl⟩
  | cons member members ih =>
    obtain ⟨fields, hfields⟩ := ih fun other hother => hkeys other (List.mem_cons_of_mem _ hother)
    obtain ⟨name, hname⟩ := Option.isSome_iff_exists.1 (hkeys member List.mem_cons_self)
    refine ⟨(name, member.2) :: fields, ?_⟩
    simp only [List.map_cons, hfields, ← hname]

/-- The fields of an object are found if each of their names occurs once as a key. -/
theorem fields?_object_eq_some_iff {names : List String} {values : List Value}
    (hkeys : ∀ member ∈ members, member.1.isSome = true) :
    (Value.object members).fields? names = some values ↔
      List.Forall₂ (IsSole members) names values := by
  obtain ⟨fields, rfl⟩ := exists_record_eq hkeys
  rw [Value.fields?, Json.keyed?_record, Option.bind_eq_bind, Option.bind_some,
    Json.mapM_eq_some_iff]
  exact ⟨fun h => h.imp fun _ _ => isSole_record.2, fun h => h.imp fun _ _ => isSole_record.1⟩

end Sole

/-- Whether the members of an object make a line: all of them can be read, and the kind and the
fields of this kind occur once. -/
structure Makes (members : List (Option String × Value)) (kind : String) (values : List Value)
    (line : Line) : Prop where
  readable : areReadableMembers (depthLimit - 1) members = true
  sole_kind : IsSole members "kind" (.string (some kind))
  sole_fields : List.Forall₂ (IsSole members) (fieldNames kind) values
  line_eq : ofFields? kind values = some line

section Objects

variable {members members' extra : List (Option String × Value)} {kind : String}
  {values : List Value} {line : Line}

/-- The same fields are found among members that hold the same under their names. -/
theorem sole_fields_congr {names : List String} (h : ∀ name ∈ names, ∀ value,
    IsSole members name value ↔ IsSole members' name value) :
    List.Forall₂ (IsSole members) names values ↔ List.Forall₂ (IsSole members') names values := by
  simp only [List.forall₂_iff_zip]
  refine and_congr_right fun _ => ⟨?_, ?_⟩
  · intro hall name value hmem
    exact (h name (List.of_mem_zip hmem).1 value).1 (hall hmem)
  · intro hall name value hmem
    exact (h name (List.of_mem_zip hmem).1 value).2 (hall hmem)

theorem sole_fields_filter :
    List.Forall₂ (IsSole (members.filter (·.1 ≠ some "kind"))) (fieldNames kind) values ↔
      List.Forall₂ (IsSole members) (fieldNames kind) values := by
  apply sole_fields_congr
  intro name hname value
  apply isSole_filter
  intro heq
  exact kind_not_mem_fieldNames kind (heq ▸ hname)

theorem ofValue?_object_eq_some_iff :
    ofValue? (.object members) = some line ↔ ∃ kind values, Makes members kind values line := by
  have hreadable : isReadable depthLimit (.object members) =
      areReadableMembers (depthLimit - 1) members := by
    rw [depthLimit, isReadable]
  have hfields (h : areReadableMembers (depthLimit - 1) members = true) (kind : String)
      (values : List Value) :
      (Value.object (members.filter (·.1 ≠ some "kind"))).fields? (fieldNames kind) = some values ↔
        List.Forall₂ (IsSole members) (fieldNames kind) values := by
    rw [← sole_fields_filter]
    apply fields?_object_eq_some_iff
    intro member hmem
    exact (areReadableMembers_iff.1 h member (List.mem_filter.1 hmem).1).1
  rw [ofValue?_eq, hreadable]
  constructor
  · intro h
    -- Everything is read before the kind is looked for, so no key is missing in what follows.
    obtain ⟨hmembers, h⟩ := Option.ite_none_right_eq_some.1 h
    obtain ⟨⟨kind, content⟩, hkind, hline⟩ := Option.bind_eq_some_iff.1 h
    obtain ⟨hsole, rfl⟩ := kind?_object_eq_some_iff.1 hkind
    obtain ⟨values, hvalues, hmade⟩ := Option.bind_eq_some_iff.1 hline
    exact ⟨kind, values, hmembers, hsole, (hfields hmembers kind values).1 hvalues, hmade⟩
  · rintro ⟨kind, values, h⟩
    simp only [if_pos h.readable, kind?_object_eq_some_iff.2 ⟨h.sole_kind, rfl⟩, Option.bind_some,
      (hfields h.readable kind values).2 h.sole_fields, h.line_eq]

/-- The order of the members does not matter. -/
theorem Makes.perm (hperm : members.Perm members') (h : Makes members kind values line) :
    Makes members' kind values line where
  readable := by
    rw [areReadableMembers_iff]
    intro member hmem
    exact areReadableMembers_iff.1 h.readable member (hperm.mem_iff.2 hmem)
  sole_kind := (isSole_perm hperm).1 h.sole_kind
  sole_fields := (sole_fields_congr fun _ _ _ => isSole_perm hperm).1 h.sole_fields
  line_eq := h.line_eq

/-- Whether a member can be read and says nothing in an object with the given members, since its key
is neither the kind nor a field of the kind that they tell. -/
structure IsOther (members : List (Option String × Value)) (member : Option String × Value) :
    Prop where
  readable : isReadable (depthLimit - 1) member.2 = true
  isSome : member.1.isSome = true
  ne_kind : member.1 ≠ some "kind"
  ne_field {kind name : String} (hkind : (some "kind", .string (some kind)) ∈ members)
    (hname : name ∈ fieldNames kind) : member.1 ≠ some name

theorem makes_append_iff (hextra : ∀ member ∈ extra, IsOther members member) :
    Makes (members ++ extra) kind values line ↔ Makes members kind values line := by
  -- The kind is settled first, since it tells which keys are those of fields.
  have hkind : IsSole (members ++ extra) "kind" (.string (some kind)) ↔
      IsSole members "kind" (.string (some kind)) :=
    isSole_append fun member hmem => (hextra member hmem).ne_kind
  have hfields (hsole : IsSole members "kind" (.string (some kind))) :
      List.Forall₂ (IsSole (members ++ extra)) (fieldNames kind) values ↔
        List.Forall₂ (IsSole members) (fieldNames kind) values := by
    apply sole_fields_congr
    intro name hname value
    exact isSole_append fun member hmem => (hextra member hmem).ne_field hsole.mem hname
  constructor
  · intro h
    have hsole := hkind.1 h.sole_kind
    refine ⟨?_, hsole, (hfields hsole).1 h.sole_fields, h.line_eq⟩
    rw [areReadableMembers_iff]
    intro member hmem
    exact areReadableMembers_iff.1 h.readable member (List.mem_append_left _ hmem)
  · intro h
    refine ⟨?_, hkind.2 h.sole_kind, (hfields h.sole_kind).2 h.sole_fields, h.line_eq⟩
    rw [areReadableMembers_iff]
    intro member hmem
    rcases List.mem_append.1 hmem with hmember | hother
    · exact areReadableMembers_iff.1 h.readable member hmember
    · exact ⟨(hextra member hother).isSome, (hextra member hother).readable⟩

/-- Objects are read alike if the one has the members of the other, in any order, and others that
say nothing. -/
theorem ofValue?_object_congr (hperm : members'.Perm (members ++ extra))
    (hextra : ∀ member ∈ extra, IsOther members member) :
    ofValue? (.object members') = ofValue? (.object members) := by
  ext line
  rw [ofValue?_object_eq_some_iff, ofValue?_object_eq_some_iff]
  constructor
  · rintro ⟨kind, values, h⟩
    exact ⟨kind, values, (makes_append_iff hextra).1 (h.perm hperm)⟩
  · rintro ⟨kind, values, h⟩
    exact ⟨kind, values, ((makes_append_iff hextra).2 h).perm hperm.symm⟩

end Objects

/-- The members of an object of a kind that holds nothing but the fields of this kind. -/
def layout (kind : String) (values : List Value) : List (Option String × Value) :=
  (("kind", .string (some kind)) :: (fieldNames kind).zip values).map
    fun (name, value) => (some name, value)

section Layouts

variable {kind : String} {values : List Value} {line : Line}

theorem isSole_layout (hlength : values.length = (fieldNames kind).length) {name : String}
    {value : Value} (hmem : (name, value) ∈
      ("kind", .string (some kind)) :: (fieldNames kind).zip values) :
    IsSole (layout kind values) name value := by
  have hnames :
      ((("kind", .string (some kind)) :: (fieldNames kind).zip values).map (·.1)).Nodup := by
    rw [List.map_cons, List.map_fst_zip (Nat.le_of_eq hlength.symm)]
    exact List.nodup_cons.2 ⟨kind_not_mem_fieldNames kind, nodup_fieldNames kind⟩
  exact isSole_record.2 (Json.only?_of_mem hnames hmem)

theorem areReadableMembers_layout (hlength : values.length = (fieldNames kind).length)
    {depth : Nat} : areReadableMembers depth (layout kind values) = areReadable depth values := by
  have hvalues : ((fieldNames kind).zip values).map (·.2) = values :=
    List.map_snd_zip (Nat.le_of_eq hlength)
  have hkind : isReadable depth (.string (some kind)) = true := rfl
  rw [layout, areReadableMembers_record, List.map_cons, hvalues, areReadable, hkind, Bool.true_and]

theorem makes_layout_iff (hlength : values.length = (fieldNames kind).length) {kind' : String}
    {values' : List Value} :
    Makes (layout kind values) kind' values' line ↔ kind' = kind ∧ values' = values ∧
      areReadable (depthLimit - 1) values = true ∧ ofFields? kind values = some line := by
  have hkind : IsSole (layout kind values) "kind" (.string (some kind)) :=
    isSole_layout hlength List.mem_cons_self
  have hfields : List.Forall₂ (IsSole (layout kind values)) (fieldNames kind) values := by
    rw [List.forall₂_iff_zip]
    exact ⟨hlength.symm, fun hmem => isSole_layout hlength (List.mem_cons_of_mem _ hmem)⟩
  have hunique : Relator.RightUnique (IsSole (layout kind values)) := fun _ _ _ h h' => h.unique h'
  constructor
  · intro h
    have hkinds := h.sole_kind.unique hkind
    simp only [Value.string.injEq, Option.some.injEq] at hkinds
    subst hkinds
    have hvalues := List.right_unique_forall₂' hunique h.sole_fields hfields
    subst hvalues
    exact ⟨rfl, rfl, areReadableMembers_layout hlength ▸ h.readable, h.line_eq⟩
  · rintro ⟨rfl, rfl, hreadable, hline⟩
    exact ⟨(areReadableMembers_layout hlength).trans hreadable, hkind, hfields, hline⟩

theorem ofValue?_array_eq_some_iff :
    ofValue? (.array (.string (some kind) :: values)) = some line ↔
      values.length = (fieldNames kind).length ∧ areReadable (depthLimit - 1) values = true ∧
        ofFields? kind values = some line := by
  have hreadable : isReadable depthLimit (.array (.string (some kind) :: values)) =
      areReadable (depthLimit - 1) values := by
    rw [depthLimit, isReadable, areReadable]
    rfl
  simp only [ofValue?_eq, hreadable, kind?, Value.fields?, Option.ite_none_right_eq_some]
  grind

/-- An array of the kind and the fields is read as the object that holds them. -/
theorem ofValue?_array (hlength : values.length = (fieldNames kind).length) :
    ofValue? (.array (.string (some kind) :: values)) =
      ofValue? (.object (layout kind values)) := by
  ext line
  rw [ofValue?_array_eq_some_iff, ofValue?_object_eq_some_iff]
  simp only [makes_layout_iff hlength, hlength, true_and, exists_and_left, exists_eq_left]

end Layouts

section Own

def kind : Line → String
  | .word _ => "word"
  | .form _ _ => "form"

/-- The values of the fields of a line, in order. -/
def values : Line → List Value
  | .word entry =>
    [encode entry.id, encode entry.root, encode entry.typeId, encode entry.speechPart,
      encode entry.rules]
  | .form wordId described =>
    [encode wordId, encode described.form, encode described.description]

variable (line : Line)

theorem ofFields?_values : ofFields? line.kind line.values = some line := by
  cases line <;> simp only [kind, values, ofFields?, decode?_encode, Option.bind_eq_bind,
    Option.bind_some, Option.pure_def]

theorem length_values : line.values.length = (fieldNames line.kind).length := by
  cases line <;> rfl

theorem areReadable_values {depth : Nat} : areReadable depth line.values = true := by
  have hnumber (n : UInt64) : isReadable depth (encode n) = true :=
    Json.inRange_ofNat n.toNat_lt_size
  have htext (text : String) : isReadable depth (encode text) = true := rfl
  cases line <;> simp only [values, areReadable, hnumber, htext, Bool.and_true]

theorem ofValue?_layout : ofValue? (.object (layout line.kind line.values)) = some line := by
  rw [ofValue?_object_eq_some_iff]
  exact ⟨_, _, (makes_layout_iff line.length_values).2
    ⟨rfl, rfl, line.areReadable_values, line.ofFields?_values⟩⟩

theorem isWritable_values : ∀ value ∈ line.values, value.IsWritable := by
  cases line <;> simp [values, isWritable_encode]

theorem isWritable_layout : ∀ member ∈ layout line.kind line.values,
    member.1.isSome = true ∧ member.2.IsWritable := by
  intro member hmem
  obtain ⟨⟨name, value⟩, hfield, rfl⟩ := List.mem_map.1 hmem
  refine ⟨rfl, ?_⟩
  rcases List.mem_cons.1 hfield with hkind | hother
  · obtain ⟨rfl, rfl⟩ := Prod.mk.inj hkind
    exact .string line.kind
  · exact line.isWritable_values value (List.of_mem_zip hother).2

end Own

/-- A line has one meaning in all its layouts. The members of an object can stand in any order and
among others that say nothing, and an array of the kind and the fields is read as the object that
holds them. Each line is read from the object of its own kind and fields. -/
theorem layout_law {text : List Char} {members : List (Option String × Value)}
    (htext : Value.ofText? text = some (.object members)) :
    (∀ text' members' extra, Value.ofText? text' = some (.object members') →
        members'.Perm (members ++ extra) → (∀ member ∈ extra, IsOther members member) →
          ofText? text' = ofText? text) ∧
      (∀ text' kind values, Value.ofText? text' = some (.array (.string (some kind) :: values)) →
        values.length = (fieldNames kind).length → members.Perm (layout kind values) →
          ofText? text' = ofText? text) ∧
      ∀ line : Line, members.Perm (layout line.kind line.values) → ofText? text = some line := by
  have hread : ofText? text = ofValue? (.object members) := by
    rw [ofText?, htext, Option.bind_some]
  have hlayout {members' : List (Option String × Value)} (hperm : members.Perm members') :
      ofValue? (.object members) = ofValue? (.object members') := by
    rw [← List.append_nil members'] at hperm
    exact ofValue?_object_congr hperm (List.forall_mem_nil _)
  refine ⟨?_, ?_, ?_⟩
  · intro text' members' extra htext' hperm hextra
    rw [hread, ofText?, htext', Option.bind_some, ofValue?_object_congr hperm hextra]
  · intro text' kind values htext' hlength hperm
    rw [hread, ofText?, htext', Option.bind_some, ofValue?_array hlength, hlayout hperm]
  · intro line hperm
    rw [hread, hlayout hperm, ofValue?_layout]

/-- A form whose kind stands last, with another member before its fields, and the array of it. -/
theorem layout_law_form :
    ofText? ("\x7b\"id\":[null],\"description\":\"мн.ч.\",\"name\":\"маси\",\"base_word_id\":7," ++
      "\"kind\":\"form\"\x7d").toList = some (.form 7 ⟨"маси", "мн.ч."⟩) ∧
    ofText? "[\"form\",7,\"маси\",\"мн.ч.\"]".toList = some (.form 7 ⟨"маси", "мн.ч."⟩) := by
  let line : Line := .form 7 ⟨"маси", "мн.ч."⟩
  let members := layout line.kind line.values
  let other : Option String × Value := (some "id", .array [.null])
  -- The texts are those that the values are written as, so that none has to be read by evaluation.
  have hplain : Value.ofText? (Value.object members).text.toList = some (.object members) :=
    Value.ofText?_text (.object (fun member h => (line.isWritable_layout member h).1)
      fun member h => (line.isWritable_layout member h).2)
  have hmembers : ∀ member ∈ (members ++ [other]).reverse,
      member.1.isSome = true ∧ member.2.IsWritable := by
    intro member hmem
    rcases List.mem_append.1 (List.mem_reverse.1 hmem) with hown | hother
    · exact line.isWritable_layout member hown
    · obtain rfl := List.mem_singleton.1 hother
      exact ⟨rfl, .array (by simp [Value.IsWritable.null])⟩
  have hobject : Value.ofText? (Value.object (members ++ [other]).reverse).text.toList =
      some (.object (members ++ [other]).reverse) :=
    Value.ofText?_text (.object (fun member h => (hmembers member h).1)
      fun member h => (hmembers member h).2)
  have harray : Value.ofText? (Value.array (.string (some line.kind) :: line.values)).text.toList =
      some (.array (.string (some line.kind) :: line.values)) := by
    apply Value.ofText?_text
    exact .array (List.forall_mem_cons.2 ⟨.string line.kind, line.isWritable_values⟩)
  have hobjectText : (Value.object (members ++ [other]).reverse).text =
      "\x7b\"id\":[null],\"description\":\"мн.ч.\",\"name\":\"маси\",\"base_word_id\":7," ++
        "\"kind\":\"form\"\x7d" := by
    decide +kernel
  have harrayText : (Value.array (.string (some line.kind) :: line.values)).text =
      "[\"form\",7,\"маси\",\"мн.ч.\"]" := by
    decide +kernel
  have hother : IsOther members other := by
    refine ⟨rfl, rfl, by decide, ?_⟩
    intro found name hfound hname
    have hkind : found = "form" := by
      simpa [members, line, layout, kind, values, fieldNames] using hfound
    subst hkind
    revert name
    decide
  obtain ⟨hobjects, harrays, hline⟩ := layout_law hplain
  rw [← hobjectText, ← harrayText, ← hline line (.refl _)]
  exact ⟨hobjects _ _ [other] hobject (List.reverse_perm _) (by simpa using hother),
    harrays _ _ _ harray line.length_values (.refl _)⟩

end Inflection.Lexicon.Line
