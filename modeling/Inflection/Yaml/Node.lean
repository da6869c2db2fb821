import Inflection.Yaml.Token

/-!
The tree of a YAML document. Only what a list of names in two levels of
mappings can be written with is read: a pair inside a flow sequence is refused,
and so is a second document.
-/

namespace Inflection.Yaml

/-- A node. An alias holds the name of the node it stands for; every other node
may have a name. A scalar keeps its tag. -/
inductive Node where
  | alias (name : String)
  | scalar (anchor tag : Option String) (style : ScalarStyle) (text : String)
  | sequence (anchor : Option String) (items : List Node)
  | mapping (anchor : Option String) (pairs : List (Node × Node))

namespace Node

/-- The scalar that stands where a node is left out. -/
def missing : Node := scalar none none .plain ""

/-- The name and the tag before a node. -/
structure Properties where
  anchor : Option String := none
  tag : Option (String × String) := none

def properties : List Token → Properties × List Token
  | .anchor name :: .tag handle suffix :: rest =>
    ({ anchor := name, tag := (handle, suffix) }, rest)
  | .tag handle suffix :: .anchor name :: rest =>
    ({ anchor := name, tag := (handle, suffix) }, rest)
  | .anchor name :: rest => ({ anchor := name }, rest)
  | .tag handle suffix :: rest => ({ tag := (handle, suffix) }, rest)
  | rest => ({}, rest)

/-- What each tag handle stands for. -/
abbrev Handles := List (String × String)

/-- The handles that need no declaration. -/
def commonHandles : Handles := [("!", "!"), ("!!", "tag:yaml.org,2002:")]

/-- The full form of a tag, if its handle is declared. -/
def fullTag? (handles : Handles) : Option (String × String) → Option (Option String)
  | none => some none
  | some ("", suffix) => some (some suffix)
  | some (handle, suffix) => (handles.lookup handle).map fun expansion => some (expansion ++ suffix)

/-- Whether no node stands before the next token of a block mapping. -/
def endsBlockPart : List Token → Bool
  | [] => false
  | token :: _ => token = .key || token = .value || token = .blockEnd

/-- Whether no node stands before the next token of a block sequence. -/
def endsBlockItem : List Token → Bool
  | [] => false
  | token :: _ => token = .blockEntry || token = .blockEnd

/-- Whether no node stands before the next token of a flow mapping. -/
def endsFlowPart : List Token → Bool
  | [] => false
  | token :: _ => token = .value || token = .flowEntry || token = .flowMappingEnd

mutual

/-- Reads a node. In a block mapping a sequence may begin without being
indented. The first argument bounds the steps. -/
def node (handles : Handles) : Nat → Bool → Bool → List Token → Option (Node × List Token)
  | 0, _, _, _ => none
  | _ + 1, _, _, .alias name :: rest => some (.alias name, rest)
  | steps + 1, inBlock, inMapping, tokens => do
    let (props, tokens) := properties tokens
    let tag ← fullTag? handles props.tag
    match tokens with
    | .scalar text style :: rest => return (.scalar props.anchor tag style text, rest)
    | .flowSequenceStart :: rest =>
      let (items, rest) ← flowItems handles steps true rest
      return (.sequence props.anchor items, rest)
    | .flowMappingStart :: rest =>
      let (pairs, rest) ← flowPairs handles steps true rest
      return (.mapping props.anchor pairs, rest)
    | .blockSequenceStart :: rest =>
      if !inBlock then none
      let (items, rest) ← blockItems handles steps rest
      match rest with
      | .blockEnd :: rest => return (.sequence props.anchor items, rest)
      | _ => none
    | .blockMappingStart :: rest =>
      if !inBlock then none
      let (pairs, rest) ← blockPairs handles steps rest
      return (.mapping props.anchor pairs, rest)
    | .blockEntry :: rest =>
      if inMapping then
        let (items, rest) ← flatItems handles steps (.blockEntry :: rest)
        return (.sequence props.anchor items, rest)
      else if props.anchor.isNone && tag.isNone then none
      else return (.scalar props.anchor tag .plain "", .blockEntry :: rest)
    | rest =>
      if props.anchor.isNone && tag.isNone then none
      else return (.scalar props.anchor tag .plain "", rest)

/-- Reads the items of an indented block sequence. -/
def blockItems (handles : Handles) : Nat → List Token → Option (List Node × List Token)
  | 0, _ => none
  | steps + 1, tokens =>
    match tokens with
    | .blockEntry :: rest => do
      let (item, rest) ←
        if endsBlockItem rest then some (missing, rest) else node handles steps true false rest
      let (items, rest) ← blockItems handles steps rest
      return (item :: items, rest)
    | rest => some ([], rest)

/-- Reads the items of a block sequence that is not indented. -/
def flatItems (handles : Handles) : Nat → List Token → Option (List Node × List Token)
  | 0, _ => none
  | steps + 1, tokens =>
    match tokens with
    | .blockEntry :: rest => do
      let (item, rest) ←
        if endsBlockItem rest || endsBlockPart rest then some (missing, rest)
        else node handles steps true false rest
      let (items, rest) ← flatItems handles steps rest
      return (item :: items, rest)
    | rest => some ([], rest)

/-- Reads the pairs of a block mapping up to its end. -/
def blockPairs (handles : Handles) : Nat → List Token → Option (List (Node × Node) × List Token)
  | 0, _ => none
  | steps + 1, tokens =>
    match tokens with
    | .blockEnd :: rest => some ([], rest)
    | .key :: rest => do
      let (key, rest) ←
        if endsBlockPart rest then some (missing, rest) else node handles steps true true rest
      let (value, rest) ←
        match rest with
        | .value :: rest =>
          if endsBlockPart rest then some (missing, rest) else node handles steps true true rest
        | rest => some (missing, rest)
      let (pairs, rest) ← blockPairs handles steps rest
      return ((key, value) :: pairs, rest)
    | _ => none

/-- Reads the items of a flow sequence up to its end. -/
def flowItems (handles : Handles) : Nat → Bool → List Token → Option (List Node × List Token)
  | 0, _, _ => none
  | steps + 1, isFirst, tokens =>
    match tokens with
    | .flowSequenceEnd :: rest => some ([], rest)
    | .flowEntry :: .flowSequenceEnd :: rest => if isFirst then none else some ([], rest)
    | .flowEntry :: rest => do
      if isFirst then none
      let (item, rest) ← node handles steps false false rest
      let (items, rest) ← flowItems handles steps false rest
      return (item :: items, rest)
    | rest => do
      if !isFirst then none
      let (item, rest) ← node handles steps false false rest
      let (items, rest) ← flowItems handles steps false rest
      return (item :: items, rest)

/-- Reads the pairs of a flow mapping up to its end. A node without a key mark
is a key without a value. -/
def flowPairs (handles : Handles) :
    Nat → Bool → List Token → Option (List (Node × Node) × List Token)
  | 0, _, _ => none
  | steps + 1, isFirst, tokens =>
    match tokens with
    | .flowMappingEnd :: rest => some ([], rest)
    | .flowEntry :: .flowMappingEnd :: rest => if isFirst then none else some ([], rest)
    | .flowEntry :: rest => do
      if isFirst then none
      let (pair, rest) ← flowPair handles steps rest
      let (pairs, rest) ← flowPairs handles steps false rest
      return (pair :: pairs, rest)
    | rest => do
      if !isFirst then none
      let (pair, rest) ← flowPair handles steps rest
      let (pairs, rest) ← flowPairs handles steps false rest
      return (pair :: pairs, rest)

def flowPair (handles : Handles) : Nat → List Token → Option ((Node × Node) × List Token)
  | 0, _ => none
  | steps + 1, tokens =>
    match tokens with
    | .key :: rest => do
      let (key, rest) ←
        if endsFlowPart rest then some (missing, rest) else node handles steps false false rest
      let (value, rest) ←
        match rest with
        | .value :: rest =>
          if rest.head? = some .flowEntry || rest.head? = some .flowMappingEnd then
            some (missing, rest)
          else node handles steps false false rest
        | rest => some (missing, rest)
      return ((key, value), rest)
    | rest => do
      let (key, rest) ← node handles steps false false rest
      return ((key, missing), rest)

end

/-- Reads the directives of a document: the version, which may be 1.1 or 1.2,
and tag handles, each of them once. -/
def directives : Bool → Handles → List Token → Option (Handles × List Token)
  | hasVersion, handles, .version major minor :: rest =>
    if hasVersion || major ≠ 1 || (minor ≠ 1 && minor ≠ 2) then none
    else directives true handles rest
  | hasVersion, handles, .tagHandle handle expansion :: rest =>
    if (handles.lookup handle).isSome then none
    else directives hasVersion (handles ++ [(handle, expansion)]) rest
  | _, handles, rest => some (handles, rest)

/-- Whether the marked document has no node. -/
def isEmptyDocument : List Token → Bool
  | [] => true
  | .version .. :: _ | .tagHandle .. :: _ | .documentStart :: _ | .documentEnd :: _ => true
  | _ => false

/-- The node of the only document of a stream, or nothing inside if the stream
has no document. -/
def ofTokens? (tokens : List Token) : Option (Option Node) := do
  if tokens.isEmpty then return none
  let (handles, rest) ← directives false [] tokens
  let handles := handles ++ commonHandles
  let steps := 2 * tokens.length + 2
  let (root, rest) ←
    match rest with
    | .documentStart :: rest =>
      if isEmptyDocument rest then some (missing, rest) else node handles steps true false rest
    | _ => if rest.length < tokens.length then none else node handles steps true false rest
  if rest.all (· = .documentEnd) then return some root else none

end Node

end Inflection.Yaml
