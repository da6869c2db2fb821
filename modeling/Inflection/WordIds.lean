import Inflection.Json.Codec
import Inflection.Yaml.Document

/-!
Lists of word ids as text, in JSON or in YAML.
-/

namespace Inflection.WordIds

open Yaml (Document Tree)

def ofJson? (text : String) : Option (List UInt64) :=
  Json.read? text

/-- The number that digits below the base write, at least one. -/
def digits? (base : Nat) (digits : List Char) : Option Nat :=
  if digits.isEmpty then none
  else
    digits.foldlM (fun n c =>
      (Hexadecimal.digit? c).bind fun d => if d < base then some (base * n + d) else none) 0

def dropPlus (digits : List Char) : List Char :=
  match digits with
  | '+' :: rest => rest
  | _ => digits

/-- An integer written in base ten without leading zeros, or in base sixteen,
eight or two after a mark. A plus sign may stand before it. -/
def number? (text : List Char) : Option Nat :=
  match dropPlus text with
  | '0' :: 'x' :: rest => digits? 16 rest
  | '0' :: 'o' :: rest => digits? 8 rest
  | '0' :: 'b' :: rest => digits? 2 rest
  | '0' :: _ :: _ => none
  | digits => digits? 10 digits

/-- The id that a node writes. Quoted numbers are texts; a block is a number if it
is tagged as an integer. -/
def id? (document : Document) (tree : Tree) : Option UInt64 := do
  let .scalar tag style text ← document.follow? tree | none
  let isNumber :=
    style = .plain || (style = .literal && tag = some "tag:yaml.org,2002:int")
  if !isNumber then none
  let n ← number? text.toList
  if n < UInt64.size then return UInt64.ofNat n else none

def ofDocument? (document : Document) : Option (List UInt64) :=
  match document.root with
  | none => some []
  | some root => do
    if !document.repeatsWithinBounds 2 then none
    (← document.items? root).mapM (id? document)

def ofYaml? (text : String) : Option (List UInt64) :=
  (Document.ofText? text.toList).bind ofDocument?

end Inflection.WordIds
