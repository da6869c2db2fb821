import Inflection.Pattern.Escape

/-!
Bracketed character classes. A class is a union of characters, ranges, named
sets and classes in turn; classes are combined by intersection `&&`,
difference `--` and symmetric difference `~~`, which bind less than union and
group to the left. The classes open at a place of the text form a stack.
-/

namespace Inflection.Pattern.CharacterClass

inductive Operation where
  | intersection
  | difference
  | symmetricDifference

/-- A set of characters with the height of the text that wrote it, counted in
levels of nesting. -/
structure Operand where
  members : CharSet
  height : Nat

/-- A class whose closing bracket is still to come. -/
structure Level where
  negated : Bool
  /-- Whether nothing but hyphens has been read. -/
  leading : Bool
  /-- What stands before the operation whose right side is being read. -/
  pending : Option (Operation × Operand)
  /-- The union being read, the count of its parts and the greatest height
  among them. -/
  members : CharSet
  count : Nat
  height : Nat

def Operation.apply (operation : Operation) (left right : CharSet) : CharSet :=
  match operation with
  | intersection => left ∩ right
  | difference => left \ right
  | symmetricDifference => left.symmDiff right

namespace Level

def opened (negated : Bool) : Level :=
  { negated, leading := true, pending := none, members := ∅, count := 0, height := 0 }

def add (level : Level) (part : Operand) : Level :=
  { level with
    leading := false
    members := level.members ∪ part.members
    count := level.count + 1
    height := max level.height part.height }

/-- Adds a hyphen that stands before all other parts. -/
def addHyphen (level : Level) : Level :=
  { level.add ⟨CharSet.single '-', 0⟩ with leading := true }

/-- All that has been read at this level, as one operand. -/
def operand (flags : Flags) (level : Level) : Operand :=
  let union : Operand :=
    ⟨level.members, if 2 ≤ level.count then level.height + 1 else level.height⟩
  match level.pending with
  | none => union
  | some (operation, left) =>
    ⟨operation.apply (flags.foldCase left.members) (flags.foldCase union.members),
      max left.height union.height + 1⟩

/-- Begins the right side of an operation. -/
def combine (flags : Flags) (operation : Operation) (level : Level) : Level :=
  { level with
    leading := false
    pending := some (operation, level.operand flags)
    members := ∅
    count := 0
    height := 0 }

/-- The class, once its closing bracket is reached. -/
def close? (flags : Flags) (level : Level) : Option Operand := do
  let operand := level.operand flags
  let folded := flags.foldCase operand.members
  let members ← if level.negated then flags.complement? folded else some folded
  return ⟨members, operand.height + 1⟩

end Level

/-- The sets of ASCII characters that have names. -/
def namedAscii? (name : List Char) : Option CharSet :=
  let between := fun (low high c : Char) => decide (low ≤ c ∧ c ≤ high)
  let having := fun (holds : Char → Bool) => some (CharSet.ascii holds)
  match String.ofList name with
  | "alnum" => having Char.isAlphanum
  | "alpha" => having Char.isAlpha
  | "ascii" => having fun _ => true
  | "blank" => having fun c => c == '\t' || c == ' '
  | "cntrl" => having fun c => c.toNat < 32 || c.toNat = 127
  | "digit" => having Char.isDigit
  | "graph" => having (between '!' '~')
  | "lower" => having Char.isLower
  | "print" => having (between ' ' '~')
  | "punct" => having fun c => between '!' '~' c && !c.isAlphanum
  | "space" => having Unicode.isBlank
  | "upper" => having Char.isUpper
  | "word" => having Boundary.isAsciiWordCharacter
  | "xdigit" => having fun c => c.isDigit || between 'a' 'f' c || between 'A' 'F' c
  | _ => none

/-- The text up to the first colon, if a bracket follows it, and the text after
that bracket. -/
def untilColonBracket : List Char → Option (List Char × List Char)
  | [] => none
  | c :: rest =>
    if c = ':' then
      match rest with
      | ']' :: rest => some ([], rest)
      | _ => none
    else (untilColonBracket rest).map fun (name, rest) => (c :: name, rest)

/-- Whether a class with a name is negated, and the text from the name on, if
there is a colon. -/
def asciiSign? : List Char → Option (Bool × List Char)
  | ':' :: '^' :: rest => some (true, rest)
  | ':' :: rest => some (false, rest)
  | _ => none

/-- Reads what follows the bracket of a class such as `[:alpha:]`. Text that
only begins like one gives nothing. With the set comes whether its complement is
meant. -/
def asciiClass? (text : List Char) : Option ((CharSet × Bool) × List Char) := do
  let (negated, text) ← asciiSign? text
  let (name, rest) ← untilColonBracket text
  return ((← namedAscii? name, negated), rest)

/-- Reads a character or an escape. -/
def atom (flags : Flags) : List Char → Option (Atom × List Char)
  | [] => none
  | '\\' :: rest => Escape.read flags rest
  | c :: rest => some (.char c, rest)

/-- The set of an atom inside brackets. Conditions on the place have none. -/
def atomSet? (flags : Flags) : Atom → Option CharSet
  | .char c => if flags.unicode || c.toNat < 128 then some (CharSet.single c) else none
  | .set members => some members
  | .look _ => none

/-- The set of a range, whose ends are single characters in order. -/
def range? (flags : Flags) : Atom → Atom → Option CharSet
  | .char low, .char high =>
    if low ≤ high ∧ (flags.unicode ∨ high.toNat < 128) then
      some (CharSet.range low high)
    else none
  | _, _ => none

/-- The next character that is neither a blank nor the first number sign, if
layout is to be skipped at all. -/
def peek (flags : Flags) (text : List Char) : Option Char :=
  if flags.spaced then
    match text.dropWhile Unicode.isBlank with
    | '#' :: rest => (rest.dropWhile Unicode.isBlank).head?
    | rest => rest.head?
  else text.head?

/-- Reads what follows a character or a named set. A hyphen makes a range unless a
closing bracket or a second hyphen follows it. -/
def afterAtom (flags : Flags) (low : Atom) (text : List Char) : Option (CharSet × List Char) :=
  match flags.skip text with
  | '-' :: rest =>
    if peek flags rest = some ']' ∨ peek flags rest = some '-' then
      (atomSet? flags low).map (·, '-' :: rest)
    else do
      let (high, rest) ← atom flags (flags.skip rest)
      return (← range? flags low high, rest)
  | rest => (atomSet? flags low).map (·, rest)

/-- Reads a character, a named set or a range. -/
def part (flags : Flags) (text : List Char) : Option (CharSet × List Char) := do
  let (low, rest) ← atom flags text
  afterAtom flags low rest

/-- Reads what follows an opening bracket, as far as it negates the class. -/
def openLevel (flags : Flags) (text : List Char) : Level × List Char :=
  match flags.skip text with
  | '^' :: rest => (Level.opened true, rest)
  | rest => (Level.opened false, rest)

/-- How far the reading of a class has come. -/
inductive Progress where
  /-- Inside the class `level`, with those in `outer` open around it. -/
  | within (outer : List Level) (level : Level)
  | closed (operand : Operand)

/-- Adds a class with a name. -/
def addNamed (flags : Flags) (outer : List Level) (level : Level) (members : CharSet)
    (negated : Bool) : Option Progress := do
  let folded := flags.foldCase members
  let members ← if negated then flags.complement? folded else some folded
  return .within outer (level.add ⟨members, 0⟩)

/-- Reads a closing bracket, which stands for itself before all other parts. -/
def close (flags : Flags) (outer : List Level) (level : Level) : Option Progress :=
  if level.leading && level.count = 0 then
    some (.within outer (level.add ⟨CharSet.single ']', 0⟩))
  else do
    let operand ← level.close? flags
    match outer with
    | [] => return .closed operand
    | parent :: outer => return .within outer (parent.add operand)

/-- Reads an operation or a part. -/
def element (flags : Flags) (outer : List Level) (level : Level) (text : List Char) :
    Option (Progress × List Char) :=
  match text with
  | '&' :: '&' :: rest => some (.within outer (level.combine flags .intersection), rest)
  | '-' :: '-' :: rest => some (.within outer (level.combine flags .difference), rest)
  | '~' :: '~' :: rest => some (.within outer (level.combine flags .symmetricDifference), rest)
  | text => (part flags text).map fun (members, rest) =>
      (.within outer (level.add ⟨members, 0⟩), rest)

/-- Reads one part of the innermost open class. -/
def step (flags : Flags) (outer : List Level) (level : Level) (text : List Char) :
    Option (Progress × List Char) :=
  match flags.skip text with
  | [] => none
  | c :: rest =>
    if c = '[' then
      match asciiClass? rest with
      | some ((members, negated), rest) =>
        (addNamed flags outer level members negated).map (·, rest)
      | none =>
        let (inner, rest) := openLevel flags rest
        some (.within (level :: outer) inner, rest)
    else if c = ']' then (close flags outer level).map (·, rest)
    else if level.leading && c = '-' then some (.within outer level.addHyphen, rest)
    else element flags outer level (c :: rest)

/-- Reads up to the bracket that closes the outermost open class. The number
bounds the steps, each of which takes at least one character. -/
def readFrom (flags : Flags) : Nat → List Level → Level → List Char → Option (Operand × List Char)
  | 0, _, _, _ => none
  | steps + 1, outer, level, text =>
    match step flags outer level text with
    | some (.within outer level, rest) => readFrom flags steps outer level rest
    | some (.closed operand, rest) => some (operand, rest)
    | none => none

/-- Reads the class whose opening bracket has just been read. -/
def read (flags : Flags) (text : List Char) : Option (Operand × List Char) :=
  let (level, rest) := openLevel flags text
  readFrom flags (text.length + 1) [] level rest

end Inflection.Pattern.CharacterClass
