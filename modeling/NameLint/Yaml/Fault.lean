/-!
# What can be wrong with a document
-/

namespace NameLint.Yaml

inductive Fault where
  /-- The text is no document, or its parts do not fit together. -/
  | malformed
  /-- A scalar does not have the form that its tag asks for. -/
  | badValue
  /-- A scalar is none of the words that its tag knows. -/
  | unknownWord
  /-- A scalar is empty where its tag asks for a first character. -/
  | emptyScalar
  /-- A scalar has no parts where its tag asks for some. -/
  | noParts
  /-- A number is too large. -/
  | tooLarge
  /-- A collection stands where the text of a scalar is needed. -/
  | wrongKind
  /-- The bytes are no text. -/
  | undecodable
  deriving DecidableEq, Repr

end NameLint.Yaml
