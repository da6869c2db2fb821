import Inflection.Pattern.ByteRange
import Inflection.Pattern.Node
import Std.Data.TreeMap

/-!
The storage that a pattern takes. A pattern is refused if the automaton that
reads UTF-8 text for it takes more than ten mebibytes, in either direction,
with all repetitions written out. States of the automaton are shared within a
set of characters as far as a table of fixed size remembers them.
-/

namespace Inflection.Pattern

/-- The states of an automaton under construction and the bytes they take. -/
structure Storage where
  states : Nat := 0
  bytes : Nat := 0

inductive Direction where
  | forward
  | backward
deriving DecidableEq

namespace Storage

/-- The greatest size of an automaton. -/
def limit : Nat := 10485760

/-- Adds `count` states and the bytes that they take beyond their own size. -/
def extend (storage : Storage) (count : Nat) (beyond : Nat := 0) : Storage :=
  ⟨storage.states + count, storage.bytes + 32 * count + beyond⟩

/-- The automaton, unless it is too large. -/
def check (storage : Storage) : Option Storage :=
  if storage.bytes ≤ limit then some storage else none

/-- The size of a state's way to one of several states without reading. -/
def wayBytes : Nat := 4

/-- The size of a state's way to another by one byte of a range. -/
def transitionBytes : Nat := 8

/-- One part of a pattern after another is added to an automaton. -/
abbrev Step := Storage → Option Storage

namespace Step

def andThen (first second : Step) : Step := fun storage => first storage >>= second

/-- Adds states of fixed size. -/
def add (count : Nat) (beyond : Nat := 0) : Step := fun storage =>
  (storage.extend count beyond).check

/-- Takes a step several times. -/
def times (step : Step) : Nat → Step
  | 0, storage => some storage
  | count + 1, storage =>
    match step storage with
    | some storage => times step count storage
    | none => none

end Step

/-- The states that were made for given keys, at most `capacity` of them. A key
displaces the one that was kept at its place before. -/
structure Memo (κ : Type) where
  capacity : Nat
  kept : Std.TreeMap Nat (κ × Nat) := ∅

namespace Memo

variable {κ : Type} [DecidableEq κ]

/-- The place of a key that is made of the given numbers. -/
def place (memo : Memo κ) (numbers : List Nat) : Nat :=
  (numbers.foldl (fun (hash : UInt64) n => (hash ^^^ n.toUInt64) * 1099511628211)
    14695981039346656037).toNat % memo.capacity

def find? (memo : Memo κ) (place : Nat) (key : κ) : Option Nat :=
  match memo.kept[place]? with
  | some (other, state) => if other = key then some state else none
  | none => none

def keep (memo : Memo κ) (place : Nat) (key : κ) (state : Nat) : Memo κ :=
  { memo with kept := memo.kept.insert place (key, state) }

end Memo

/-- A state that leads to another by a range of bytes. -/
abbrev Transition := ByteRange × Nat

def Transition.numbers (t : Transition) : List Nat := [t.1.first, t.1.last, t.2]

/-- Adds the states that read the given sequences from the first byte on, and
gives the number of the first state. All sequences end at the state
`goal` and have at most the given length. -/
def addReaders (goal : Nat) : Nat → List (List ByteRange) → Memo (List Transition) × Storage →
    Nat × Memo (List Transition) × Storage
  | 0, _, made => (goal, made)
  | length + 1, sequences, made =>
    if sequences.all List.isEmpty then (goal, made)
    else
      let groups := sequences.splitBy fun a b => a.head? = b.head?
      let (transitions, memo, storage) :=
        groups.foldl
          (fun (transitions, made) group =>
            let (state, made) := addReaders goal length (group.map List.tail) made
            ((group.head?.bind List.head?).toList.map (·, state) ++ transitions, made))
          (([] : List Transition), made)
      let transitions := transitions.reverse
      let place := memo.place (transitions.flatMap Transition.numbers)
      match memo.find? place transitions with
      | some state => (state, memo, storage)
      | none =>
        (storage.states, memo.keep place transitions storage.states,
          storage.extend 1 (transitionBytes * transitions.length))

/-- Adds the states that read a sequence from its last byte to its first and end
at the state given first. -/
def addBackward (sequence : List ByteRange) (goal : Nat) (made : Memo Transition × Storage) :
    Memo Transition × Storage :=
  (sequence.foldl
    (fun (next, memo, storage) range =>
      let place := memo.place [next, range.first, range.last]
      match memo.find? place (range, next) with
      | some state => (state, memo, storage)
      | none =>
        (storage.states, memo.keep place (range, next) storage.states, storage.extend 1))
    (goal, made)).2

/-- Adds the states for one character of a set. -/
def addSet (direction : Direction) (s : CharSet) : Step := fun storage =>
  if s.isAscii then (storage.extend 2 (transitionBytes * s.ranges.length)).check
  else
    let sequences := ByteRange.sequencesOf s
    match direction with
    | .forward =>
      (addReaders storage.states 4 sequences (⟨10000, ∅⟩, storage.extend 1)).2.2.check
    | .backward =>
      let goal := storage.states + 1
      let start := storage.extend 2 (wayBytes * sequences.length)
      (sequences.foldl (fun made sequence => addBackward sequence goal made)
        (⟨1000, ∅⟩, start)).2.check

/-- The size of a tree of texts that are tried in order, up to the given depth. An
empty text ends there; the texts after it are kept apart from those before. -/
def treeOf : Nat → List (List Nat) → Storage
  | 0, _ => {}
  | depth + 1, texts =>
    if texts.all List.isEmpty then {}
    else
      let texts :=
        match texts with
        | [] :: rest => [] :: rest.dropWhile List.isEmpty
        | texts => texts
      let chunks := texts.splitBy fun a b => !a.isEmpty && !b.isEmpty
      let ways := chunks.length
      chunks.foldl
        (fun size chunk =>
          let bytes := (chunk.filterMap List.head?).eraseDups
          let size :=
            match bytes.length with
            | 0 => size
            | 1 => size.extend 1
            | count => size.extend 1 (transitionBytes * count)
          bytes.foldl
            (fun size byte =>
              let below := treeOf depth
                ((chunk.filter (·.head? = some byte)).map List.tail)
              ⟨size.states + below.states, size.bytes + below.bytes⟩)
            size)
        (({} : Storage).extend 1 (wayBytes * ways))

/-- Adds the states for any of several texts. -/
def addTexts (direction : Direction) (texts : List (List Char)) : Step := fun storage =>
  let encoded := texts.map fun text =>
    let bytes := (String.ofList text).toUTF8.toList.map UInt8.toNat
    match direction with
    | .forward => bytes
    | .backward => bytes.reverse
  let depth := (encoded.map List.length).foldl max 0 + 1
  let tree := treeOf depth encoded
  check ⟨storage.states + 1 + tree.states, storage.bytes + 32 + tree.bytes⟩

/-- Adds a choice between parts. The states that lead to the parts and join them
are made after the second part. -/
def addChoice (branches : List Step) : Step :=
  match branches with
  | first :: second :: others =>
    others.foldl Step.andThen
      ((first.andThen second).andThen (.add 2 (wayBytes * branches.length)))
  | branches => branches.foldl Step.andThen some

/-- Adds a state that leads two ways. -/
def addFork : Step := .add 1 (2 * wayBytes)

/-- Adds a repetition. What may take no characters is repeated with a way around
the repetition as a whole. -/
def addTimes (low : Nat) (high : Option Nat) (takesCharacters : Bool) (body : Step) : Step :=
  match low, high with
  | 0, some 1 => (addFork.andThen body).andThen (.add 1)
  | 0, none =>
    if takesCharacters then addFork.andThen body
    else ((body.andThen addFork).andThen addFork).andThen (.add 1)
  | low, none => (body.times low).andThen addFork
  | 0, some 0 => .add 1
  | low, some high =>
    let required := if low = 0 then .add 1 else body.times low
    if low = high then required
    else (required.andThen (.add 1)).andThen ((addFork.andThen body).times (high - low))

end Storage

namespace Node

open Storage

/-- The text of a literal. -/
def text? : Node → Option (List Char)
  | literal text => some text
  | _ => none

/-- The step that adds a node to an automaton, and the steps for its branches if
it is a choice. -/
def steps (direction : Direction) : Node → Step × List Step
  | alt first second =>
    let branches := (steps direction first).1 :: (steps direction second).2
    let whole := alt first second
    (fun storage =>
      match whole.branches.mapM text? with
      | some texts => addTexts direction texts storage
      | none => addChoice branches storage, branches)
  | empty | look _ => single (.add 1)
  | literal text => single (.add (String.ofList text).utf8ByteSize)
  | set members => single (addSet direction members)
  | group _ body =>
    let inner := (steps direction body).1
    match direction with
    | .forward => single (((Step.add 1).andThen inner).andThen (.add 1))
    | .backward => single inner
  | seq first second =>
    let first := (steps direction first).1
    let second := (steps direction second).1
    match direction with
    | .forward => single (first.andThen second)
    | .backward => single (second.andThen first)
  | times low high _ body =>
    single (addTimes low high body.takesCharacters (steps direction body).1)
where
  single (step : Step) : Step × List Step := (step, [step])

/-- Whether a match can only begin at the start of the text. -/
def opensText : Node → Bool
  | look boundary => boundary = .startOfText
  | group _ body => body.opensText
  | seq first second => first.opensText || (first.isWidthless && second.opensText)
  | alt first second => first.opensText && second.opensText
  | times low _ _ body => low ≠ 0 && body.opensText
  | empty | literal _ | set _ => false

/-- Whether a match can only end at the end of the text. -/
def closesText : Node → Bool
  | look boundary => boundary = .endOfText
  | group _ body => body.closesText
  | seq first second => second.closesText || (second.isWidthless && first.closesText)
  | alt first second => first.closesText && second.closesText
  | times low _ _ body => low ≠ 0 && body.closesText
  | empty | literal _ | set _ => false

/-- The automaton for a node, unless it is too large. It skips what stands before
a match unless a match is tied to the end of the text where reading begins. -/
def storage? (direction : Direction) (node : Node) : Option Storage :=
  let tied :=
    match direction with
    | .forward => node.opensText
    | .backward => node.closesText
  let skip : Step := if tied then .add 1 else .add 3 (2 * wayBytes + transitionBytes)
  let body := (steps direction (if direction = .forward then group 0 node else node)).1
  ((skip.andThen body).andThen (.add 1)) {}

/-- Whether the pattern is small enough to be used. -/
def fits (node : Node) : Bool :=
  (node.storage? .forward).isSome && (node.storage? .backward).isSome

end Node

end Inflection.Pattern
