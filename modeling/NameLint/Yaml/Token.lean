import NameLint.Yaml.Fault

/-!
# Tokens

The words and marks of a document. Tokens that open and close block collections
come from indentation, and a key token from the colon that follows the key. The
end of the list is the end of the document's text, or the place where the text
could not be read on.
-/

namespace NameLint.Yaml

inductive Token where
  | version (major : Nat)
  | tagHandle (handle expansion : String)
  | otherDirective
  | documentStart
  | documentEnd
  | blockSequenceStart
  | blockMappingStart
  | blockEnd
  | flowSequenceStart
  | flowSequenceEnd
  | flowMappingStart
  | flowMappingEnd
  | flowEntry
  | blockEntry
  | key
  | value
  | alias (name : String)
  | anchor (name : String)
  | tag (handle : Option String) (suffix : String)
  | scalar (text : String) (plain : Bool)
  deriving DecidableEq, Repr, Inhabited

/-- Tokens in their order, and the fault at which reading them stopped. -/
structure Tokens where
  items : List Token
  fault : Option Fault

end NameLint.Yaml
