import Inflection.File

/-!
Decoding is exact: some bytes are decoded to a text just if they are its
encoding. Each byte of a character after the first holds six bits of its value.
-/

namespace Inflection.Utf8

variable {decoded text : List Char}

/-- A value without its last bits, six for each byte that is left. -/
def leading (value : Nat) : Nat → Nat
  | 0 => value
  | left + 1 => leading value left / 0x40

/-- The bytes after the first in an encoding, which hold the last bits of a value. -/
def tails (value : Nat) : Nat → List Nat
  | 0 => []
  | left + 1 => (0x80 + leading value left % 0x40) :: tails value left

/-- One more byte gives six more bits. -/
theorem tail_iff {byte value whole : Nat} (hbyte : byte / 0x40 = 2) :
    byte = 0x80 + whole % 0x40 ∧ whole / 0x40 = value ↔ whole = 0x40 * value + byte % 0x40 := by
  omega

theorem tails_append_iff {byte value whole left : Nat} {rest after : List Nat}
    (hbyte : byte / 0x40 = 2) :
    byte :: rest = tails whole (left + 1) ++ after ∧ leading whole (left + 1) = value ↔
      rest = tails whole left ++ after ∧ leading whole left = 0x40 * value + byte % 0x40 := by
  rw [leading, tails, List.cons_append, List.cons.injEq, ← tail_iff hbyte]
  constructor
  · intro ⟨⟨htail, hrest⟩, hvalue⟩
    exact ⟨hrest, htail, hvalue⟩
  · intro ⟨hrest, htail, hvalue⟩
    exact ⟨⟨htail, hrest⟩, hvalue⟩

/-- What is left of an encoding that has begun is read as the last bits of a value that needs so
many bytes. -/
theorem decodeFrom_begun_iff {begun : Partial} {bytes : List Nat} (hleft : begun.left ≠ 0) :
    decodeFrom decoded (some begun) bytes = some text ↔
      ∃ value after, (bytes = tails value begun.left ++ after ∧
        leading value begun.left = begun.value) ∧ begun.least ≤ value ∧ value.isValidChar ∧
        decodeFrom (Char.ofNat value :: decoded) none after = some text := by
  obtain ⟨left, hsucc⟩ := Nat.exists_eq_succ_of_ne_zero hleft
  induction bytes generalizing begun left with
  | nil =>
    rw [decodeFrom, hsucc]
    simp [tails]
  | cons byte rest ih =>
    rw [decodeFrom, hsucc]
    by_cases hbyte : byte / 0x40 = 2
    · rw [if_neg (not_not_intro hbyte)]
      simp only [tails_append_iff hbyte]
      cases left with
      | zero =>
        rw [if_neg (by omega)]
        simp only [tails, leading, List.nil_append]
        constructor
        · intro h
          split at h
          · rename_i hvalue
            exact ⟨_, rest, ⟨rfl, rfl⟩, hvalue.1, hvalue.2, h⟩
          · contradiction
        · intro ⟨value, after, ⟨hrest, hvalue⟩, hleast, hvalid, h⟩
          rw [if_pos (hvalue ▸ ⟨hleast, hvalid⟩), ← hvalue, hrest]
          exact h
      | succ left =>
        rw [if_pos (by omega), ih (Nat.succ_ne_zero left) left rfl]
        exact Iff.rfl
    · rw [if_pos hbyte]
      constructor
      · intro h
        contradiction
      · intro ⟨value, after, ⟨htail, _⟩, _⟩
        rw [tails, List.cons_append, List.cons.injEq] at htail
        omega

/-- The first byte of several says how many they are. -/
theorem Partial.ofLead?_eq_some_iff {byte : Nat} {begun : Partial} :
    Partial.ofLead? byte = some begun ↔
      (∃ value < 0x20, byte = 0xC0 + value ∧ begun = ⟨value, 1, 0x80⟩) ∨
      (∃ value < 0x10, byte = 0xE0 + value ∧ begun = ⟨value, 2, 0x800⟩) ∨
      ∃ value < 0x08, byte = 0xF0 + value ∧ begun = ⟨value, 3, 0x10000⟩ := by
  unfold Partial.ofLead?
  constructor
  · intro h
    split at h
    · exact .inl ⟨byte % 0x20, by omega, by omega, (Option.some.inj h).symm⟩
    · split at h
      · exact .inr (.inl ⟨byte % 0x10, by omega, by omega, (Option.some.inj h).symm⟩)
      · split at h
        · exact .inr (.inr ⟨byte % 0x08, by omega, by omega, (Option.some.inj h).symm⟩)
        · contradiction
  · rintro (⟨value, hvalue, rfl, rfl⟩ | ⟨value, hvalue, rfl, rfl⟩ | ⟨value, hvalue, rfl, rfl⟩)
    · have hrest : (0xC0 + value) % 0x20 = value := by omega
      rw [if_pos (by omega), hrest]
    · have hrest : (0xE0 + value) % 0x10 = value := by omega
      rw [if_neg (by omega), if_pos (by omega), hrest]
    · have hrest : (0xF0 + value) % 0x08 = value := by omega
      rw [if_neg (by omega), if_neg (by omega), if_pos (by omega), hrest]

/-- The bytes that encode a character. -/
def bytesOf (c : Char) : List Nat :=
  (String.utf8EncodeChar c).map UInt8.toNat

theorem toNat_lt (c : Char) : c.toNat < 0x110000 := by
  rcases c.valid with h | h
  · exact Nat.lt_trans h (by decide)
  · exact h.2

theorem bytesOf_eq (c : Char) :
    bytesOf c =
      if c.toNat ≤ 0x7F then [c.toNat]
      else if c.toNat ≤ 0x7FF then (0xC0 + leading c.toNat 1) :: tails c.toNat 1
      else if c.toNat ≤ 0xFFFF then (0xE0 + leading c.toNat 2) :: tails c.toNat 2
      else (0xF0 + leading c.toNat 3) :: tails c.toNat 3 := by
  have hlt := toNat_lt c
  have hval : c.val.toNat = c.toNat := rfl
  unfold bytesOf String.utf8EncodeChar
  simp only [tails, leading, hval]
  split
  · simp only [List.map_cons, List.map_nil, UInt8.toNat_ofNat', List.cons.injEq, and_true]
    omega
  · split
    · simp only [List.map_cons, List.map_nil, UInt8.toNat_ofNat', List.cons.injEq, and_true]
      omega
    · split
      · simp only [List.map_cons, List.map_nil, UInt8.toNat_ofNat', List.cons.injEq, and_true]
        omega
      · simp only [List.map_cons, List.map_nil, UInt8.toNat_ofNat', List.cons.injEq, and_true]
        omega

theorem toNat_ofNat {value : Nat} (h : value.isValidChar) : (Char.ofNat value).toNat = value := by
  rw [Char.ofNat, dif_pos h]
  rfl

/-- A byte below `0x80` is a whole encoding. -/
theorem bytesOf_eq_cons_iff_of_le {c : Char} {byte : Nat} {rest : List Nat} (hbyte : byte ≤ 0x7F) :
    bytesOf c = byte :: rest ↔ c = Char.ofNat byte ∧ rest = [] := by
  rw [bytesOf_eq]
  constructor
  · intro h
    split at h
    · obtain ⟨rfl, hrest⟩ := List.cons.inj h
      exact ⟨(Char.ofNat_toNat c).symm, hrest.symm⟩
    · split at h
      · have hfirst := (List.cons.inj h).1
        omega
      · split at h
        · have hfirst := (List.cons.inj h).1
          omega
        · have hfirst := (List.cons.inj h).1
          omega
  · intro ⟨hc, hrest⟩
    have hvalue : c.toNat = byte := by
      rw [hc, toNat_ofNat (.inl (by omega))]
    rw [hvalue, if_pos hbyte, hrest]

/-- An encoding of several bytes is its first byte and what this says is left. -/
theorem bytesOf_eq_cons_iff {c : Char} {byte : Nat} {rest : List Nat} (hbyte : 0x7F < byte) :
    bytesOf c = byte :: rest ↔ ∃ begun, Partial.ofLead? byte = some begun ∧
      (rest = tails c.toNat begun.left ∧ leading c.toNat begun.left = begun.value) ∧
        begun.least ≤ c.toNat := by
  have hlt := toNat_lt c
  have hone : leading c.toNat 1 = c.toNat / 0x40 := rfl
  have htwo : leading c.toNat 2 = c.toNat / 0x40 / 0x40 := rfl
  have hthree : leading c.toNat 3 = c.toNat / 0x40 / 0x40 / 0x40 := rfl
  rw [bytesOf_eq]
  simp only [Partial.ofLead?_eq_some_iff]
  constructor
  · intro h
    split at h
    · obtain ⟨hfirst, -⟩ := List.cons.inj h
      omega
    · split at h
      · obtain ⟨hfirst, hrest⟩ := List.cons.inj h
        exact ⟨_, .inl ⟨_, by omega, hfirst.symm, rfl⟩, ⟨hrest.symm, rfl⟩, by simp; omega⟩
      · split at h
        · obtain ⟨hfirst, hrest⟩ := List.cons.inj h
          exact ⟨_, .inr (.inl ⟨_, by omega, hfirst.symm, rfl⟩), ⟨hrest.symm, rfl⟩, by simp; omega⟩
        · obtain ⟨hfirst, hrest⟩ := List.cons.inj h
          exact ⟨_, .inr (.inr ⟨_, by omega, hfirst.symm, rfl⟩), ⟨hrest.symm, rfl⟩, by simp; omega⟩
  · rintro ⟨begun, ⟨value, hvalue, rfl, rfl⟩ | ⟨value, hvalue, rfl, rfl⟩ |
      ⟨value, hvalue, rfl, rfl⟩, ⟨rfl, hbits⟩, hleast⟩
    · rw [if_neg (by simp at hleast; omega), if_pos (by simp at hbits; omega), hbits]
    · rw [if_neg (by simp at hleast; omega), if_neg (by simp at hleast; omega),
        if_pos (by simp at hbits; omega), hbits]
    · rw [if_neg (by simp at hleast; omega), if_neg (by simp at hleast; omega),
        if_neg (by simp at hleast; omega), hbits]

theorem bytesOf_ne_nil (c : Char) : bytesOf c ≠ [] := by
  unfold bytesOf
  simp

/-- The first character is decoded from its encoding. -/
theorem decodeFrom_cons_iff {byte : Nat} {rest : List Nat} :
    decodeFrom decoded none (byte :: rest) = some text ↔ ∃ c after,
      byte :: rest = bytesOf c ++ after ∧ decodeFrom (c :: decoded) none after = some text := by
  have hfirst : ∀ c after, byte :: rest = bytesOf c ++ after → ∃ others,
      bytesOf c = byte :: others ∧ rest = others ++ after := by
    intro c after h
    rcases List.cons_eq_append_iff.1 h with ⟨hnil, -⟩ | ⟨others, hothers, hrest⟩
    · exact absurd hnil (bytesOf_ne_nil c)
    · exact ⟨others, hothers, hrest⟩
  rw [decodeFrom]
  by_cases hbyte : byte < 0x80
  · have hle : byte ≤ 0x7F := by omega
    rw [if_pos hbyte]
    constructor
    · intro h
      refine ⟨Char.ofNat byte, rest, ?_, h⟩
      rw [(bytesOf_eq_cons_iff_of_le hle).2 ⟨rfl, rfl⟩]
      rfl
    · intro ⟨c, after, hsplit, h⟩
      obtain ⟨others, hothers, hrest⟩ := hfirst c after hsplit
      obtain ⟨hc, hnil⟩ := (bytesOf_eq_cons_iff_of_le hle).1 hothers
      rw [hrest, hnil, List.nil_append, ← hc]
      exact h
  · have hlt : 0x7F < byte := by omega
    rw [if_neg hbyte]
    cases hlead : Partial.ofLead? byte with
    | none =>
      constructor
      · intro h
        contradiction
      · intro ⟨c, after, hsplit, _⟩
        obtain ⟨others, hothers, -⟩ := hfirst c after hsplit
        obtain ⟨begun, hbegun, -⟩ := (bytesOf_eq_cons_iff hlt).1 hothers
        rw [hlead] at hbegun
        contradiction
    | some begun =>
      have hleft : begun.left ≠ 0 := by
        rcases Partial.ofLead?_eq_some_iff.1 hlead with ⟨value, -, -, h⟩ | ⟨value, -, -, h⟩ |
          ⟨value, -, -, h⟩
        all_goals simp [h]
      simp only [decodeFrom_begun_iff hleft]
      constructor
      · intro ⟨value, after, ⟨hrest, hbits⟩, hleast, hvalid, h⟩
        have hvalue := toNat_ofNat hvalid
        refine ⟨Char.ofNat value, after, ?_, h⟩
        have hbytes : bytesOf (Char.ofNat value) = byte :: tails value begun.left := by
          refine (bytesOf_eq_cons_iff hlt).2 ⟨begun, hlead, ?_, ?_⟩
          · rw [hvalue]
            exact ⟨rfl, hbits⟩
          · rw [hvalue]
            exact hleast
        rw [hbytes, hrest]
        rfl
      · intro ⟨c, after, hsplit, h⟩
        obtain ⟨others, hothers, hrest⟩ := hfirst c after hsplit
        obtain ⟨begun', hbegun, ⟨htails, hbits⟩, hleast⟩ := (bytesOf_eq_cons_iff hlt).1 hothers
        obtain rfl := Option.some.inj (hlead.symm.trans hbegun)
        refine ⟨c.toNat, after, ⟨?_, hbits⟩, hleast, c.valid, ?_⟩
        · rw [hrest, htails]
        · rw [Char.ofNat_toNat]
          exact h

/-- Bytes are decoded to the characters whose encodings they are. -/
theorem decodeFrom_none_iff {bytes : List Nat} :
    decodeFrom decoded none bytes = some text ↔
      ∃ more, text = decoded.reverse ++ more ∧ bytes = more.flatMap bytesOf := by
  induction hlength : bytes.length using Nat.strongRecOn generalizing bytes decoded with
  | ind length ih =>
    cases bytes with
    | nil =>
      rw [decodeFrom, Option.some.injEq]
      constructor
      · intro h
        exact ⟨[], by rw [h, List.append_nil], rfl⟩
      · intro ⟨more, htext, hmore⟩
        cases more with
        | nil => rw [htext, List.append_nil]
        | cons c more =>
          rw [List.flatMap_cons] at hmore
          exact absurd (List.append_eq_nil_iff.1 hmore.symm).1 (bytesOf_ne_nil c)
    | cons byte rest =>
      have hshorter : ∀ c after, byte :: rest = bytesOf c ++ after → after.length < length := by
        intro c after hsplit
        have hpos := List.length_pos_iff.2 (bytesOf_ne_nil c)
        rw [← hlength, hsplit, List.length_append]
        omega
      rw [decodeFrom_cons_iff]
      constructor
      · intro ⟨c, after, hsplit, h⟩
        obtain ⟨more, htext, hmore⟩ := (ih _ (hshorter c after hsplit) rfl).1 h
        refine ⟨c :: more, ?_, ?_⟩
        · rw [htext, List.reverse_cons, List.append_assoc]
          rfl
        · rw [hsplit, hmore, List.flatMap_cons]
      · intro ⟨more, htext, hmore⟩
        cases more with
        | nil => contradiction
        | cons c more =>
          rw [List.flatMap_cons] at hmore
          refine ⟨c, _, hmore, (ih _ (hshorter c _ hmore) rfl).2 ⟨more, ?_, rfl⟩⟩
          rw [htext, List.reverse_cons, List.append_assoc]
          rfl

/-- Bytes are decoded to a text just if they are its encoding. -/
theorem decode?_eq_some_iff {bytes : List UInt8} :
    decode? (bytes.map UInt8.toNat) = some text ↔ bytes.toByteArray = text.utf8Encode := by
  have hencoding : text.flatMap bytesOf = (text.flatMap String.utf8EncodeChar).map UInt8.toNat := by
    rw [List.map_flatMap]
    rfl
  have hinjective : ∀ x y : UInt8, x.toNat = y.toNat → x = y := fun _ _ => UInt8.toNat_inj.1
  rw [decode?, decodeFrom_none_iff, List.utf8Encode, List.toByteArray_inj,
    ← List.map_inj_right hinjective, ← hencoding]
  constructor
  · intro ⟨more, htext, hmore⟩
    rw [htext, hmore]
    rfl
  · intro h
    exact ⟨text, rfl, h⟩

end Inflection.Utf8

namespace Inflection.File

variable {bytes : List UInt8}

theorem decodeUtf8_eq_ok_iff {text : String} :
    decodeUtf8 bytes = .ok text ↔ text.toByteArray = bytes.toByteArray := by
  have hcharacters : bytes.toByteArray = text.toList.utf8Encode ↔
      text.toByteArray = bytes.toByteArray := by
    rw [String.utf8Encode_toList, eq_comm]
  rw [← hcharacters, ← Utf8.decode?_eq_some_iff, decodeUtf8]
  cases Utf8.decode? (bytes.map UInt8.toNat) with
  | none => simp
  | some characters =>
    simp only [Except.ok.injEq, Option.some.injEq]
    constructor
    · intro h
      rw [← h, String.toList_ofList]
    · intro h
      rw [h, String.ofList_toList]

/-- Bytes that are not valid are refused. -/
theorem decodeUtf8_eq_error_iff {error : Error} :
    decodeUtf8 bytes = .error error ↔
      ¬ bytes.toByteArray.IsValidUTF8 ∧ error = .io "stream did not contain valid UTF-8" := by
  cases hresult : decodeUtf8 bytes with
  | ok text =>
    have hvalid : bytes.toByteArray.IsValidUTF8 := by
      rw [← decodeUtf8_eq_ok_iff.1 hresult]
      exact text.isValidUTF8
    simp [hvalid]
  | error found =>
    have hinvalid : ¬ bytes.toByteArray.IsValidUTF8 := by
      intro ⟨characters, hcharacters⟩
      have htext := decodeUtf8_eq_ok_iff.2 (String.toByteArray_ofList.trans hcharacters.symm)
      rw [hresult] at htext
      contradiction
    have hfound : found = .io "stream did not contain valid UTF-8" := by
      rw [decodeUtf8] at hresult
      split at hresult
      · contradiction
      · exact (Except.error.inj hresult).symm
    simp [hinvalid, hfound, eq_comm]

end Inflection.File
