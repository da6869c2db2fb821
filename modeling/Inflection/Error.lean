/-!
The errors that the library reports. Each part of the library has causes of
its own; they are turned into the errors of this module where they leave it.
-/

namespace Inflection

inductive Error where
  /-- A root that does not satisfy a condition of its rule. -/
  | validation (root condition message : String)
  /-- A rule text that cannot be read. -/
  | rule (message : String)
  /-- A part of speech for which forms have no fixed positions. -/
  | unsupportedSpeechPart (tag : String)
  | lookup (message : String)
  | config (message : String)
  | io (message : String)
  | serialization (message : String)
  | internal (message : String)
deriving DecidableEq, Repr

namespace Error

/-- The text shown for an error. -/
def text : Error → String
  | validation root condition message =>
    "validation error: '" ++ root ++ "' does not satisfy '" ++ condition ++ "': " ++ message
  | rule message => "rule error: " ++ message
  | unsupportedSpeechPart tag => "the speech part '" ++ tag ++ "' isn't supported"
  | lookup message => "lookup error: " ++ message
  | config message => "config error: " ++ message
  | io message => "io error: " ++ message
  | serialization message => "serialization error: " ++ message
  | internal message => "internal error: " ++ message

/-- Whether a word failed to fit its rule. -/
def isValidation : Error → Bool
  | validation .. => true
  | _ => false

instance : ToString Error := ⟨text⟩

end Error

end Inflection
