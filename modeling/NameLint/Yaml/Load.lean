import NameLint.Config.Load
import NameLint.Yaml.Build
import NameLint.Yaml.Lexing

/-!
# Loading documents

The value of the one document in a file: its pages are read into tokens, the tokens
into nodes, and from the nodes the value is built.
-/

namespace NameLint.Yaml

/-- The value of the document in a file; a file without one has the value null. -/
def load (content : ByteArray) : Except Fault Value := do
  match ← Document.ofTokens (Tokens.ofPages (Pages.ofBytes content)) with
  | none => return .null
  | some d => d.value

def Fault.ofDocument : Fault → DocumentFault
  | .malformed => .malformed
  | .badValue => .other .badValue
  | .unknownWord => .other .missingKey
  | .emptyScalar => .other .outOfRange
  | .noParts => .other .noMember
  | .tooLarge => .other .tooLarge
  | .wrongKind => .other .wrongKind
  | .undecodable => .other .undecodable

def reader : DocumentReader :=
  fun content => (load content).mapError Fault.ofDocument

end NameLint.Yaml
