import NameLint.Value

/-!
# Severities

How much weight a violation has.
-/

namespace NameLint

inductive Severity where
  | error
  | warning
  deriving DecidableEq, Repr, Inhabited

namespace Severity

def all : List Severity := [.error, .warning]

/-- The word for a severity in configurations and reports. -/
def word : Severity → String
  | .error => "error"
  | .warning => "warning"

def constant : Severity → String
  | .error => "ERROR"
  | .warning => "WARNING"

def ofValue? (v : Value) : Option Severity :=
  all.find? fun s => v.same (.text s.word)

end Severity

end NameLint
