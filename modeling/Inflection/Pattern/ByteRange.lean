import Inflection.CharSet

/-!
Sets of characters as seen in UTF-8 text. The texts that encode the characters
of a run are written as sequences of byte ranges: a sequence stands for all
texts that take one byte of each range in turn. Sequences come in the order of
the characters, and no two of them share a text.
-/

namespace Inflection.Pattern

structure ByteRange where
  first : Nat
  last : Nat
deriving DecidableEq

namespace ByteRange

/-- How many numbers can be written with so many bytes that continue a
character. -/
def capacity (count : Nat) : Nat := Nat.pow 64 count

/-- The numbers from `low` to `high` in digits of base 64, of which `count` follow
the first. The sets of digits at each place are given as ranges. -/
def digitRanges : Nat → Nat → Nat → List (List ByteRange)
  | 0, low, high => [[⟨low, high⟩]]
  | count + 1, low, high =>
    let size := capacity (count + 1)
    let (first, last) := (low / size, high / size)
    if first = last then
      (digitRanges count (low % size) (high % size)).map (⟨first, first⟩ :: ·)
    else
      let startsEven := low % size = 0
      let endsEven := high % size = size - 1
      let before :=
        if startsEven then []
        else (digitRanges count (low % size) (size - 1)).map (⟨first, first⟩ :: ·)
      let after :=
        if endsEven then []
        else (digitRanges count 0 (high % size)).map (⟨last, last⟩ :: ·)
      let first := if startsEven then first else first + 1
      let last := if endsEven then last else last - 1
      let between :=
        if first ≤ last then [⟨first, last⟩ :: List.replicate (count + 1) ⟨0, 63⟩] else []
      before ++ between ++ after

/-- The bytes that hold given digits. -/
def mark (offset : Nat) (digits : ByteRange) : ByteRange :=
  ⟨digits.first + offset, digits.last + offset⟩

/-- The sequences for the characters of a run that take one byte and `count` more,
where `low` to `high` are all such characters and the first byte is marked by
`lead`. -/
def clipped (run : Nat × Nat) (low high count lead : Nat) : List (List ByteRange) :=
  let first := max run.1 low
  let last := min run.2 high
  if first ≤ last then
    (digitRanges count first last).map fun digits =>
      match digits with
      | [] => []
      | digit :: digits => mark lead digit :: digits.map (mark 0x80)
  else []

/-- The sequences for a run of characters. -/
def sequences (run : Nat × Nat) : List (List ByteRange) :=
  clipped run 0 0x7F 0 0 ++ clipped run 0x80 0x7FF 1 0xC0 ++
    clipped run 0x800 0xFFFF 2 0xE0 ++ clipped run 0x10000 0x10FFFF 3 0xF0

/-- The sequences for a set. -/
def sequencesOf (s : CharSet) : List (List ByteRange) :=
  s.ranges.flatMap sequences

end ByteRange

end Inflection.Pattern
